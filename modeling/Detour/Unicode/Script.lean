import Detour.Unicode.Packed

/-!
# Scripts

The script of each character, and its script extensions: the scripts that share the character.
-/

namespace Detour.Unicode

/-- The characters of each script. -/
def scripts : List NamedSet := [
  ⟨["adlm", "adlam"],
    ["zWE0yb4941"]⟩,
  ⟨["ahom"],
    ["yBU0q2e4m"]⟩,
  ⟨["hluw", "anatolianhieroglyphs"],
    ["yNw0O6"]⟩,
  ⟨["arab", "arabic"],
    ["xM04151d121v19bp1zb1x1ygxfDgu115ya1sxYOgzigHa2yf2xl70x0fzg41A6zX3uy32xn3xTU031q1110201913",
     "101060401010121110201010101011102316131310191g52141gxk1"]⟩,
  ⟨["armn", "armenian"],
    ["xFhx52xh22xZI34"]⟩,
  ⟨["avst", "avestan"],
    ["yyU0xl36"]⟩,
  ⟨["bali", "balinese"],
    ["CU0yc1xh"]⟩,
  ⟨["bamu", "bamum"],
    ["xFR0ynxME8No"]⟩,
  ⟨["bass", "bassavah"],
    ["yWSgt25"]⟩,
  ⟨["batk", "batak"],
    ["C+0xj83"]⟩,
  ⟨["beng", "bengali"],
    ["yI0317212l1610332821238041142o"]⟩,
  ⟨["bhks", "bhaiksuki"],
    ["yDw081xc1das"]⟩,
  ⟨["bopo", "bopomofo"],
    ["Ta1HMpxazgv"]⟩,
  ⟨["brah", "brahmi"],
    ["yAw0yd4x390"]⟩,
  ⟨["brai", "braille"],
    ["Gw0Dv"]⟩,
  ⟨["bugi", "buginese"],
    ["CM0r21"]⟩,
  ⟨["buhd", "buhid"],
    ["BW0j"]⟩,
  ⟨["cans", "canadianaboriginal"],
    ["Bw0PvNgy5ywJqf"]⟩,
  ⟨["cari", "carian"],
    ["ywR0xg"]⟩,
  ⟨["aghb", "caucasianalbanian"],
    ["yxFgxjb0"]⟩,
  ⟨["cakm", "chakma"],
    ["yAE0xk1h"]⟩,
  ⟨["cham"],
    ["xGM0xm9d2923"]⟩,
  ⟨["cher", "cherokee"],
    ["AZ0yl25xBXiyf"]⟩,
  ⟨["chrs", "chorasmian"],
    ["yzZgr"]⟩,
  ⟨["zyyy", "common"],
    ["0y0q5qxe1e14n0v0K1x6542jzk0906010Pt060e030x00As0M40A11xCp0Il3F20xLf2y71Cb110xCd0d07315122",
     "0U5b2ym1a3a1ehx0xvx512251q1gx924QpmalYvE0Pj2v1z8M0ytIik101of743yr130yq1Ajfx0x590xgxvvygxf",
     "0yoB7CK0xvSE0x1z62B59Dk0B00Ib0e1QKi1Cg9mx21i13Aj01vq5qaa0xd1y0616a4E224xc38ygcxjxcD4qxKJ4",
     "3zWsDp6JjAszjxsDlax62xt3g817t4xsCljcjcym9oA7yk1y6112021231b10161y01327161r131410361Gj2F32",
     "xhBzhy3ycxsS2xb4z3ce2e1e1x4aBdxop11dxb4871e5Aq+n4g3c3zm4yu6b40fb4xn896x78t2b41xuGjcd2c395",
     "xn7e2a687Ai1z5Uxw70uyv"]⟩,
  ⟨["copt", "coptic", "qaac"],
    ["/2dGAgzj56"]⟩,
  ⟨["xsux", "cuneiform"],
    ["yEw0Ypz6ze14bC3"]⟩,
  ⟨["cprt", "cypriot"],
    ["yyw05201xb113020"]⟩,
  ⟨["cpmn", "cyprominoan"],
    ["yHYgz2"]⟩,
  ⟨["cyrl", "cyrillic"],
    ["xw0A42B8BWgaB00yc0Az7v+y0yvRYe1xUM0xtx10"]⟩,
  ⟨["dsrt", "deseret"],
    ["yxw0yf"]⟩,
  ⟨["deva", "devanagari"],
    ["yE0yg4e2pxDX0vYM09"]⟩,
  ⟨["diak", "divesakuru"],
    ["yCE062027111t112b99"]⟩,
  ⟨["dogr", "dogra"],
    ["yCw0xr"]⟩,
  ⟨["dupl", "duployan"],
    ["zLw0za5c387923"]⟩,
  ⟨["egyp", "egyptianhieroglyphs"],
    ["yIw0xylazYq"]⟩,
  ⟨["elba", "elbasan"],
    ["yxE0x7"]⟩,
  ⟨["elym", "elymaic"],
    ["yz/0m"]⟩,
  ⟨["ethi", "ethiopic"],
    ["AM0y8132610132x8132x0132610132e1xo132y22v3pCL6m9616161616161616/F2525259616yLBh613111e"]⟩,
  ⟨["gara", "garay"],
    ["yzG0x53s81"]⟩,
  ⟨["geor", "georgian"],
    ["AB0x510502xa13yYgxa22Ay0x51050"]⟩,
  ⟨["glag", "glagolitic"],
    ["Hw0yvzIZ061g261114"]⟩,
  ⟨["goth", "gothic"],
    ["ywVgq"]⟩,
  ⟨["gran", "grantha"],
    ["yAU0317212l1611142821222060562634"]⟩,
  ⟨["grek", "greek"],
    ["Xg3122310401012101j1xuefCF64xi444yk0G0l252x525271010101u2xk1e1d251i2218F70xyNu0RKqyeh0xQy",
     "vy5"]⟩,
  ⟨["gujr", "gujarati"],
    ["yQ1218121l16111429121220f32b76"]⟩,
  ⟨["gong", "gunjalagondi"],
    ["yDH05111x4111579"]⟩,
  ⟨["guru", "gurmukhi"],
    ["yM1215412l16111111201441223073107g"]⟩,
  ⟨["gukh", "gurungkhema"],
    ["yUE0xp"]⟩,
  ⟨["hani", "han"],
    ["HQ0p1yocClxf010p8e3+4CJvy0QLvSE0Hd2z9ZE81c1xAwexFSvx0Axp6Ct2BQ1eDFgfPdyJ2MtxL2AWa5Ayv"]⟩,
  ⟨["hang", "hangul"],
    ["AE0DvDNe1E1ytzhuy1uZT1sQ3GZ3cm4xgFZ4u35252522"]⟩,
  ⟨["rohg", "hanifirohingya"],
    ["yzE0x789"]⟩,
  ⟨["hano", "hanunoo"],
    ["BV0k"]⟩,
  ⟨["hatr", "hatran"],
    ["yyD0i1154"]⟩,
  ⟨["hebr", "hebrew"],
    ["xIhxm8q45xZF8p1410111119"]⟩,
  ⟨["hira", "hiragana"],
    ["Iy1yl62y/X1Eui0t2MBd0"]⟩,
  ⟨["armi", "imperialaramaic"],
    ["yyy0l18"]⟩,
  ⟨["zinh", "inherited", "qaai"],
    ["U0zfEl1K4aq0T03AGruM121c16406031C6xvMc1C2x0zVp3zb1xPH5fgd+f0D20Ayq0xK+4xd2mN02h726u3UHWiD",
     "f"]⟩,
  ⟨["phli", "inscriptionalpahlavi"],
    ["yyX0i57"]⟩,
  ⟨["prti", "inscriptionalparthian"],
    ["yyW0l27"]⟩,
  ⟨["java", "javanese"],
    ["xGI0yd2941"]⟩,
  ⟨["kthi", "kaithi"],
    ["yAA0y2a0"]⟩,
  ⟨["knda", "kannada"],
    ["zA0c121m19142812137161132912"]⟩,
  ⟨["kana", "katakana"],
    ["IB1yp22DgfCgxe1ynxPwe91xcxIyi3161110Ev2xi0e3"]⟩,
  ⟨["kawi"],
    ["yDU0g1x83s"]⟩,
  ⟨["kali", "kayahli"],
    ["xGE0xd10"]⟩,
  ⟨["khar", "kharoshthi"],
    ["yyM031157121s224978"]⟩,
  ⟨["kits", "khitansmallscript"],
    ["yX/40CUrKlx90"]⟩,
  ⟨["khmr", "khmer"],
    ["BY0yt2969L6v"]⟩,
  ⟨["khoj", "khojki"],
    ["yAM0h1xe"]⟩,
  ⟨["sind", "khudawadi"],
    ["yARgxq59"]⟩,
  ⟨["krai", "kiratrai"],
    ["yXG0xp"]⟩,
  ⟨["laoo", "lao"],
    ["zQ1110141n101m2410161923"]⟩,
  ⟨["latn", "latin"],
    ["y1p6pxf0f05m1u1K0x74CMrx56xg535c1y5y1DvHh0d0gcAd160r0hx8ySnv+R2z53y2211017ldVgxa1813PYm6x",
     "wqp6pyx551x918xRW5u65"]⟩,
  ⟨["lepc", "lepcha"],
    ["Dw0xn3e32"]⟩,
  ⟨["limb", "limbu"],
    ["CE0u1b4b403b"]⟩,
  ⟨["lina", "lineara"],
    ["yxM0Fm9la7"]⟩,
  ⟨["linb", "linearb"],
    ["yww0b1p1i111e2dx2zq"]⟩,
  ⟨["lisu"],
    ["xFCgxf+Rg0"]⟩,
  ⟨["lyci", "lycian"],
    ["ywQ0s"]⟩,
  ⟨["lydi", "lydian"],
    ["yyF0p50"]⟩,
  ⟨["mahj", "mahajani"],
    ["yAGgx6"]⟩,
  ⟨["maka", "makasar"],
    ["yDT0o"]⟩,
  ⟨["mlym", "malayalam"],
    ["zE0c121xi12154f2p"]⟩,
  ⟨["mand", "mandaic"],
    ["yy0r20"]⟩,
  ⟨["mani", "manichaean"],
    ["yyS0x64b"]⟩,
  ⟨["marc", "marchen"],
    ["yDzgv2l1d"]⟩,
  ⟨["gonm", "masaramgondi"],
    ["yDE06111xb30111889"]⟩,
  ⟨["medf", "medefaidrin"],
    ["yXO0yq"]⟩,
  ⟨["mtei", "meeteimayek"],
    ["xGT0mC9xd29"]⟩,
  ⟨["mend", "mendekikakui"],
    ["zWw0C42f"]⟩,
  ⟨["merc", "meroiticcursive"],
    ["yyJ0n4j2xd"]⟩,
  ⟨["mero", "meroitichieroglyphs"],
    ["yyI0v"]⟩,
  ⟨["plrd", "miao"],
    ["yXU0ya4xo7g"]⟩,
  ⟨["modi"],
    ["yBM0y4b9"]⟩,
  ⟨["mong", "mongolian"],
    ["Cw01201j6yo7xax/Jlc"]⟩,
  ⟨["mroo", "mro"],
    ["yWO0u1941"]⟩,
  ⟨["mult", "multani"],
    ["yAQ0610131e1a"]⟩,
  ⟨["mymr", "myanmar"],
    ["Aw0AvxCG0uz1vXygj"]⟩,
  ⟨["nbat", "nabataean"],
    ["yyA0u88"]⟩,
  ⟨["nagm", "nagmundari"],
    ["zVCgx9"]⟩,
  ⟨["nand", "nandinagari"],
    ["yCJ072xd2a"]⟩,
  ⟨["talu", "newtailue"],
    ["CI0xb4p6a31"]⟩,
  ⟨["newa"],
    ["yBw0yr14"]⟩,
  ⟨["nkoo", "nko"],
    ["x+0xq22"]⟩,
  ⟨["nshu", "nushu"],
    ["yX/10MIeIb"]⟩,
  ⟨["hmnp", "nyiakengpuachuehmong"],
    ["zUE0xc3d2941"]⟩,
  ⟨["ogam", "ogham"],
    ["BQ0s"]⟩,
  ⟨["olck", "olchiki"],
    ["Dygxf"]⟩,
  ⟨["onao", "olonal"],
    ["zVKgxa40"]⟩,
  ⟨["hung", "oldhungarian"],
    ["yzA0xidxi75"]⟩,
  ⟨["ital", "olditalic"],
    ["ywU0x392"]⟩,
  ⟨["narb", "oldnortharabian"],
    ["yyQ0v"]⟩,
  ⟨["perm", "oldpermic"],
    ["ywWgxa"]⟩,
  ⟨["xpeo", "oldpersian"],
    ["ywZ0x34d"]⟩,
  ⟨["sogo", "oldsogdian"],
    ["yzU0x7"]⟩,
  ⟨["sarb", "oldsoutharabian"],
    ["yyP0v"]⟩,
  ⟨["orkh", "oldturkic"],
    ["yzw0y8"]⟩,
  ⟨["ougr", "olduyghur"],
    ["yzXgp"]⟩,
  ⟨["orya", "oriya"],
    ["yU1217212l1611142821227241142h"]⟩,
  ⟨["osge", "osage"],
    ["yxBgx34x3"]⟩,
  ⟨["osma", "osmanya"],
    ["yxA0t29"]⟩,
  ⟨["hmng", "pahawhhmong"],
    ["yWU0y5a9161k5i"]⟩,
  ⟨["palm", "palmyrene"],
    ["yyz0v"]⟩,
  ⟨["pauc", "paucinhau"],
    ["yCS0xo"]⟩,
  ⟨["phag", "phagspa"],
    ["xGy0xn"]⟩,
  ⟨["phnx", "phoenician"],
    ["yyE0r30"]⟩,
  ⟨["phlp", "psalterpahlavi"],
    ["yyY0h73c6"]⟩,
  ⟨["rjng", "rejang"],
    ["xGFgx3b0"]⟩,
  ⟨["runr", "runic"],
    ["BR0ya3a"]⟩,
  ⟨["samr", "samaritan"],
    ["yw0xd2e"]⟩,
  ⟨["saur", "saurashtra"],
    ["xGA0y58b"]⟩,
  ⟨["shrd", "sharada"],
    ["yAI0yv"]⟩,
  ⟨["shaw", "shavian"],
    ["yxygxf"]⟩,
  ⟨["sidd", "siddham"],
    ["yBI0xl2x5"]⟩,
  ⟨["sgnw", "signwriting"],
    ["zSw0Qbf41e"]⟩,
  ⟨["sinh", "sinhala"],
    ["zI121h3n181026304510176922yw/cj"]⟩,
  ⟨["sogd", "sogdian"],
    ["yzVgx9"]⟩,
  ⟨["sora", "sorasompeng"],
    ["yACgo79"]⟩,
  ⟨["soyo", "soyombo"],
    ["yCOgyi"]⟩,
  ⟨["sund", "sundanese"],
    ["CY0xvE07"]⟩,
  ⟨["sunu", "sunuwar"],
    ["yC+0x1e9"]⟩,
  ⟨["sylo", "sylotinagri"],
    ["xGw0xc"]⟩,
  ⟨["syrc", "syriac"],
    ["xU0d1xr22Ega"]⟩,
  ⟨["tglg", "tagalog"],
    ["BU0l90"]⟩,
  ⟨["tagb", "tagbanwa"],
    ["BX0c1211"]⟩,
  ⟨["tale", "taile"],
    ["CGgt24"]⟩,
  ⟨["lana", "taitham"],
    ["CN0xu1s2a696d"]⟩,
  ⟨["tavt", "taiviet"],
    ["xGQ0y2o4"]⟩,
  ⟨["takr", "takri"],
    ["yBQ0xp69"]⟩,
  ⟨["taml", "tamil"],
    ["yY2115321331101131323b4432132060ekyA+5xhd0"]⟩,
  ⟨["tnsa", "tangsa"],
    ["yWPgye19"]⟩,
  ⟨["tang", "tangut"],
    ["yX/00vB/n8TvM08"]⟩,
  ⟨["telu", "telugu"],
    ["zw0c121m1f281213711220232978"]⟩,
  ⟨["thaa", "thaana"],
    ["xY0xh"]⟩,
  ⟨["thai"],
    ["zM1xp5r"]⟩,
  ⟨["tibt", "tibetan"],
    ["zU0y71x34x61x31e1641"]⟩,
  ⟨["tfng", "tifinagh"],
    ["HFgxn71e0"]⟩,
  ⟨["tirh", "tirhuta"],
    ["yBA0y789"]⟩,
  ⟨["todr", "todhri"],
    ["yxK0xj"]⟩,
  ⟨["toto"],
    ["zUQgu"]⟩,
  ⟨["tutg", "tulutigalari"],
    ["yAY0910201x519102013191181"]⟩,
  ⟨["ugar", "ugaritic"],
    ["ywY0t10"]⟩,
  ⟨["vaii", "vai"],
    ["xFE0Fb"]⟩,
  ⟨["vith", "vithkuqi"],
    ["yxHga1e16111a1e1611"]⟩,
  ⟨["wcho", "wancho"],
    ["zUS0xp50"]⟩,
  ⟨["wara", "warangciti"],
    ["yCB0yic0"]⟩,
  ⟨["yezi", "yezidi"],
    ["yzQ0x91221"]⟩,
  ⟨["yiii", "yi"],
    ["xEw0xAc3xm"]⟩,
  ⟨["zanb", "zanabazarsquare"],
    ["yCM0y7"]⟩]

/-- The characters used with each script. -/
def scriptExtensions : List NamedSet := [
  ⟨["adlm", "adlam"],
    ["xMv0x00CMe0zLh0zKRuyb4941"]⟩,
  ⟨["ahom"],
    ["yBU0q2e4m"]⟩,
  ⟨["hluw", "anatolianhieroglyphs"],
    ["yNw0O6"]⟩,
  ⟨["arab", "arabic"],
    ["xM041Cm1x1ygxfDgu115ya1sBWf0zLh0xPEezigJs2xl70x0fzg41A6/3ryX4uy32xn3xTU031q11102019131010",
     "60401010121110201010101011102316131310191g52141gxk1"]⟩,
  ⟨["armn", "armenian"],
    ["U80N8x52xh22xZI34"]⟩,
  ⟨["avst", "avestan"],
    ["Bn0HHo1xTCexl36"]⟩,
  ⟨["bali", "balinese"],
    ["CU0yc1xh"]⟩,
  ⟨["bamu", "bamum"],
    ["xFR0ynxME8No"]⟩,
  ⟨["bass", "bassavah"],
    ["yWSgt25"]⟩,
  ⟨["batk", "batak"],
    ["C+0xj83"]⟩,
  ⟨["beng", "bengali"],
    ["Rs0xQk1h1q317212l1610332821238041142oASh01021108080204022xy/p0"]⟩,
  ⟨["bhks", "bhaiksuki"],
    ["yDw081xc1das"]⟩,
  ⟨["bopo", "bopomofo"],
    ["S7012d0g1HEl2491ca32060C309xazgvxPA51Eq4"]⟩,
  ⟨["brah", "brahmi"],
    ["yAw0yd4x390"]⟩,
  ⟨["brai", "braille"],
    ["Gw0Dv"]⟩,
  ⟨["bugi", "buginese"],
    ["CM0r21xzZf0"]⟩,
  ⟨["buhd", "buhid"],
    ["BVl19j"]⟩,
  ⟨["cans", "canadianaboriginal"],
    ["Bw0PvNgy5ywJqf"]⟩,
  ⟨["cari", "carian"],
    ["Bn0DZ2020zKj0xRzexg"]⟩,
  ⟨["aghb", "caucasianalbanian"],
    ["U40xc0xc0ywKhxjb0"]⟩,
  ⟨["cakm", "chakma"],
    ["yL69xOg9ywBmxk1h"]⟩,
  ⟨["cham"],
    ["xGM0xm9d2923"]⟩,
  ⟨["cher", "cherokee"],
    ["U021061m1b1Azeyl25xBXiyf"]⟩,
  ⟨["chrs", "chorasmian"],
    ["yzZgr"]⟩,
  ⟨["zyyy", "common"],
    ["0y0q5qxe1b1114n0v0K12191030181015542jzu06010Pt0Cn0M40xGs0Il3Ax7b2x01u1911161a3a1ehx0xvx51",
     "2251q1gx924QpmalYvE0Pj2v1z8M0m1n2913101pJ2030d0d0l0Mhnv0xhec3B195yvv0CK0xvSE8pz62+g0e1QR4",
     "9mk2b1i13Aj01vq5q5zv616a4IicxjxcxOM3Dp6JjAszjxsDlax62xt3g817t4xsCljcjcymr6A7yk1y611202123",
     "1b10161y01327161r131410361Gj2F32xhBzhy3ycxsS2xb4z3ce2e1e1x4aBdxop11dxb48n5Aq+n4g3c3zm4yu6",
     "b40fb4xn896x78t2b41xuGjcd2c395xn7e2a687Ai1z5Uxw70uyv"]⟩,
  ⟨["copt", "coptic", "qaac"],
    ["Bn0O803110zc1zcdGAgzj56En0xRC8r"]⟩,
  ⟨["xsux", "cuneiform"],
    ["yEw0Ypz6ze14bC3"]⟩,
  ⟨["cprt", "cypriot"],
    ["ywE024xc38xS05201xb113020"]⟩,
  ⟨["cpmn", "cyprominoan"],
    ["ywE01HQez2"]⟩,
  ⟨["cyrl", "cyrillic"],
    ["Rs0y321010102050DeFfBWgaB00yc0zv0z/7vy30Z/syvRYe1xUM0xtx10"]⟩,
  ⟨["dsrt", "deseret"],
    ["yxw0yf"]⟩,
  ⟨["deva", "devanagari"],
    ["Rs0xO3yi2xaAWgx611/m0xxVv9B6vYM09"]⟩,
  ⟨["diak", "divesakuru"],
    ["yCE062027111t112b99"]⟩,
  ⟨["dogr", "dogra"],
    ["yH4bxDS09X+6xr"]⟩,
  ⟨["dupl", "duployan"],
    ["Bn0Of110o1GUn0zzK3za5c387927"]⟩,
  ⟨["egyp", "egyptianhieroglyphs"],
    ["yIw0xylazYq"]⟩,
  ⟨["elba", "elbasan"],
    ["Bn0Od0ywLqx7"]⟩,
  ⟨["elym", "elymaic"],
    ["yz/0m"]⟩,
  ⟨["ethi", "ethiopic"],
    ["Ue0zThy8132610132x8132x0132610132e1xo132y22v3pCL6m9616161616161616/F2525259616yLBh613111e"]⟩,
  ⟨["gara", "garay"],
    ["xMc0e030yxV0x53s81"]⟩,
  ⟨["geor", "georgian"],
    ["Bn0xCh0yUmx510502xfyYgxa22Yq0zB5x51050E30"]⟩,
  ⟨["glag", "glagolitic"],
    ["Bn0Ob010Hu020E10yXh0zWu0yZ5yvL30+xb0yKIg61g261114"]⟩,
  ⟨["goth", "gothic"],
    ["Bn0Oc120x80x//uq"]⟩,
  ⟨["gran", "grantha"],
    ["yGh1h1Q0dACs011u231/m0xYMf317212l1611141921222060562634zyr110"]⟩,
  ⟨["grek", "greek"],
    ["Bn0O81201010a0xe020xa72310401012101j1xuefCF64xi444yk2Ful252x525271010101u2xk1e1d251i2218y",
     "u0C80xyNu0RKqyeh0xQyvy5"]⟩,
  ⟨["gujr", "gujarati"],
    ["yGh1h1Er218121l16111429121220f32b76xDFg9"]⟩,
  ⟨["gong", "gunjalagondi"],
    ["Bn0yBc1yA/q5111x4111579"]⟩,
  ⟨["guru", "gurmukhi"],
    ["yGh1h1Ar215412l16111111201441223073107gxDJp9"]⟩,
  ⟨["gukh", "gurungkhema"],
    ["yH50yRYqxp"]⟩,
  ⟨["hani", "han"],
    ["Bn0HK8p1yocClqf121c1c1c2068Br0Akfx0x590xgx7xoxgfbxj0yooa4z0u1CJvy0QLvxU07QLoHd2z9Xb1Eq4Yz",
     "s1c1UXehDSu1zJexFSvx0Axp6Ct2BQ1eDFgfPdyJ2MtxL2AWa5Ayv"]⟩,
  ⟨["hang", "hangul"],
    ["AE0DvDM12491ce260C30xlytzhuy1uZT1sQ3GZ3cm4xgFO91Eq4xqu35252522"]⟩,
  ⟨["rohg", "hanifirohingya"],
    ["xMc0e030x00Aj0yxNbx789"]⟩,
  ⟨["hano", "hanunoo"],
    ["BV0m"]⟩,
  ⟨["hatr", "hatran"],
    ["yyD0i1154"]⟩,
  ⟨["hebr", "hebrew"],
    ["U71Q8xm8q45xZF8p1410111119"]⟩,
  ⟨["hira", "hiragana"],
    ["Iw12491cg510413yl27yq1xPG81Eq4a0xd1xIz1Eui0t2MBd0"]⟩,
  ⟨["armi", "imperialaramaic"],
    ["yyy0l18"]⟩,
  ⟨["zinh", "inherited", "qaai"],
    ["Uf0201b1136202f111h1413xLg1AGruTjxl1014Mc1C2vxTEgfgd+f0xPE2xd2mN02h726u3UHWiDf"]⟩,
  ⟨["phli", "inscriptionalpahlavi"],
    ["yyX0i57"]⟩,
  ⟨["prti", "inscriptionalparthian"],
    ["yyW0l27"]⟩,
  ⟨["java", "javanese"],
    ["xGI0yd1a41"]⟩,
  ⟨["kthi", "kaithi"],
    ["yH69FC10+Lu9Wy6y2a0"]⟩,
  ⟨["knda", "kannada"],
    ["yGh1h1Uqc121m19142812137161132912z+s01160n010xyVr5"]⟩,
  ⟨["kana", "katakana"],
    ["U50t0HCt2491cg51041yr33yvDgfCgxe1ynxOTd1EqxuxIyg3161110Ev2xi0e3"]⟩,
  ⟨["kawi"],
    ["yDU0g1x83s"]⟩,
  ⟨["kali", "kayahli"],
    ["xGE0xf"]⟩,
  ⟨["khar", "kharoshthi"],
    ["yyM031157121s224978"]⟩,
  ⟨["kits", "khitansmallscript"],
    ["yX/40CUrKlx90"]⟩,
  ⟨["khmr", "khmer"],
    ["BY0yt2969L6v"]⟩,
  ⟨["khoj", "khojki"],
    ["yT69xDG09WK6h1xe"]⟩,
  ⟨["sind", "khudawadi"],
    ["yH41xDSa9WPmxq59"]⟩,
  ⟨["krai", "kiratrai"],
    ["yXG0xp"]⟩,
  ⟨["laoo", "lao"],
    ["zQ1110141n101m2410161923"]⟩,
  ⟨["latn", "latin"],
    ["y1p6pxf0c0205m1u1K030a01210901064re1110c0227111x60504cEl1xCa1xZ80zw4x56xg535c1y5xp07DvFf0",
     "y10d0gcyj0xp160r0hx8ySnvIn0+D87qz53y2211017ldFe0M1xa1813PYm6xwqp6pyx551x918xRW5u65"]⟩,
  ⟨["lepc", "lepcha"],
    ["Dw0xn3e32"]⟩,
  ⟨["limb", "limbu"],
    ["yH50zYqu1b4b403b"]⟩,
  ⟨["lina", "lineara"],
    ["ywE7xcxCcFm9la7"]⟩,
  ⟨["linb", "linearb"],
    ["yww0b1p1i111e2dx2zq524xc38"]⟩,
  ⟨["lisu"],
    ["Rs0g0HFs1ZC4xf+Rg0"]⟩,
  ⟨["lyci", "lycian"],
    ["Eyq0xUN5s"]⟩,
  ⟨["lydi", "lydian"],
    ["Bn0HHp0xSTep50"]⟩,
  ⟨["mahj", "mahajani"],
    ["Bn0yBcbxDS09WEmx6"]⟩,
  ⟨["maka", "makasar"],
    ["yDT0o"]⟩,
  ⟨["mlym", "malayalam"],
    ["yGh1h1Yqc121xi12154f2pzWq0n0xyVt2"]⟩,
  ⟨["mand", "mandaic"],
    ["xO00Lvr20"]⟩,
  ⟨["mani", "manichaean"],
    ["xO00yxzvx64b"]⟩,
  ⟨["marc", "marchen"],
    ["yDzgv2l1d"]⟩,
  ⟨["gonm", "masaramgondi"],
    ["yH41yAYq6111xb30111889"]⟩,
  ⟨["medf", "medefaidrin"],
    ["yXO0yq"]⟩,
  ⟨["mtei", "meeteimayek"],
    ["xGT0mC9xd29"]⟩,
  ⟨["mend", "mendekikakui"],
    ["zWw0C42f"]⟩,
  ⟨["merc", "meroiticcursive"],
    ["yyJ0n4j2xd"]⟩,
  ⟨["mero", "meroitichieroglyphs"],
    ["Eyt0xWF2v"]⟩,
  ⟨["plrd", "miao"],
    ["yXU0ya4xo7g"]⟩,
  ⟨["modi"],
    ["xGxg9XK6y4b9"]⟩,
  ⟨["mong", "mongolian"],
    ["Cw0p6yo7xaxY40z+h153xVOkc"]⟩,
  ⟨["mroo", "mro"],
    ["yWO0u1941"]⟩,
  ⟨["mult", "multani"],
    ["yP69yywg610131e1a"]⟩,
  ⟨["mymr", "myanmar"],
    ["Aw0AvxCAe0Bhuz1vXygj"]⟩,
  ⟨["nbat", "nabataean"],
    ["yyA0u88"]⟩,
  ⟨["nagm", "nagmundari"],
    ["zVCgx9"]⟩,
  ⟨["nand", "nandinagari"],
    ["yGh0i1Y09z/p08070xyVl5YHa72xd2a"]⟩,
  ⟨["talu", "newtailue"],
    ["CI0xb4p6a31"]⟩,
  ⟨["newa"],
    ["yBw0yr14"]⟩,
  ⟨["nkoo", "nko"],
    ["xMc0e030J0xq22xZFu1"]⟩,
  ⟨["nshu", "nushu"],
    ["yX/10MIeIb"]⟩,
  ⟨["hmnp", "nyiakengpuachuehmong"],
    ["zUE0xc3d2941"]⟩,
  ⟨["ogam", "ogham"],
    ["BQ0s"]⟩,
  ⟨["olck", "olchiki"],
    ["Dygxf"]⟩,
  ⟨["onao", "olonal"],
    ["yH41zTzaxa40"]⟩,
  ⟨["hung", "oldhungarian"],
    ["Eyq020zKj0f0xTNuxidxi75"]⟩,
  ⟨["ital", "olditalic"],
    ["ywU0x392"]⟩,
  ⟨["narb", "oldnortharabian"],
    ["yyQ0v"]⟩,
  ⟨["perm", "oldpermic"],
    ["Bn0O8052a0Hf0x/Scxa"]⟩,
  ⟨["xpeo", "oldpersian"],
    ["ywZ0x34d"]⟩,
  ⟨["sogo", "oldsogdian"],
    ["yzU0x7"]⟩,
  ⟨["sarb", "oldsoutharabian"],
    ["yyP0v"]⟩,
  ⟨["orkh", "oldturkic"],
    ["Eyq0zKl0xTKfy8"]⟩,
  ⟨["ougr", "olduyghur"],
    ["xO00yxBh0xztp"]⟩,
  ⟨["orya", "oriya"],
    ["yGh1h1Ir217212l1611142821227241142hAH20n0"]⟩,
  ⟨["osge", "osage"],
    ["U102060yc0ywGnx34x3"]⟩,
  ⟨["osma", "osmanya"],
    ["yxA0t29"]⟩,
  ⟨["hmng", "pahawhhmong"],
    ["yWU0y5a9161k5i"]⟩,
  ⟨["palm", "palmyrene"],
    ["yyz0v"]⟩,
  ⟨["pauc", "paucinhau"],
    ["yCS0xo"]⟩,
  ⟨["phag", "phagspa"],
    ["Cw2110yx90z+i0+xtxn"]⟩,
  ⟨["phnx", "phoenician"],
    ["yyE0r30"]⟩,
  ⟨["phlp", "psalterpahlavi"],
    ["xO00yxFvh73c6"]⟩,
  ⟨["rjng", "rejang"],
    ["xGFgx3b0"]⟩,
  ⟨["runr", "runic"],
    ["BR0yo"]⟩,
  ⟨["samr", "samaritan"],
    ["yw0xd2eFLi0"]⟩,
  ⟨["saur", "saurashtra"],
    ["xGA0y58b"]⟩,
  ⟨["shrd", "sharada"],
    ["yGh0AY50102120xyWf520WG7yv"]⟩,
  ⟨["shaw", "shavian"],
    ["Bn0ywYoxf"]⟩,
  ⟨["sidd", "siddham"],
    ["yBI0xl2x5"]⟩,
  ⟨["sgnw", "signwriting"],
    ["zSw0Qbf41e"]⟩,
  ⟨["sinh", "sinhala"],
    ["yH41xwr21h3n181026304510176922zTt0xZDej"]⟩,
  ⟨["sogd", "sogdian"],
    ["xO00yyDfx9"]⟩,
  ⟨["sora", "sorasompeng"],
    ["yACgo79"]⟩,
  ⟨["soyo", "soyombo"],
    ["yCOgyi"]⟩,
  ⟨["sund", "sundanese"],
    ["CY0xvE07"]⟩,
  ⟨["sunu", "sunuwar"],
    ["U01109020s030yCAex1e9"]⟩,
  ⟨["sylo", "sylotinagri"],
    ["yH41A09xDMgxc"]⟩,
  ⟨["syrc", "syriac"],
    ["U312110l0227110Sr0e120x00aaq0Afd1xr22EgaBId010"]⟩,
  ⟨["tglg", "tagalog"],
    ["BU0l90l1"]⟩,
  ⟨["tagb", "tagbanwa"],
    ["BVl1x9c1211"]⟩,
  ⟨["tale", "taile"],
    ["U015130zFj9yE6t24"]⟩,
  ⟨["lana", "taitham"],
    ["CN0xu1s2a696d"]⟩,
  ⟨["tavt", "taiviet"],
    ["xGQ0y2o4"]⟩,
  ⟨["takr", "takri"],
    ["yH41xDSa9XO6xp69"]⟩,
  ⟨["taml", "tamil"],
    ["yGh1h1Ms115321331101131323b4432132060ekACv0xzwo0WMd010xn1zA3xhd0"]⟩,
  ⟨["tnsa", "tangsa"],
    ["yWPgye19"]⟩,
  ⟨["tang", "tangut"],
    ["H/gfLf0yLLg0vB/n8TvM08"]⟩,
  ⟨["telu", "telugu"],
    ["yGh1h1Qqc121m1f281213711220232978Ayl11010n0"]⟩,
  ⟨["thaa", "thaana"],
    ["xMc0e120y09EmxhxZO00a0"]⟩,
  ⟨["thai"],
    ["Rs0q0xb0xd0ySfxp5r"]⟩,
  ⟨["tibt", "tibetan"],
    ["zU0y71x34x61x31e1641Exd3"]⟩,
  ⟨["tfng", "tifinagh"],
    ["U20102010GN6xn71e0"]⟩,
  ⟨["tirh", "tirhuta"],
    ["yGh1h1AYc0xyVt9Xy6y789"]⟩,
  ⟨["todr", "todhri"],
    ["U1020209010ya0ywP1xj"]⟩,
  ⟨["toto"],
    ["Rs0zT+ju"]⟩,
  ⟨["tutg", "tulutigalari"],
    ["zD69Aw2010xyVr5Br0WQe910201x519102013191181"]⟩,
  ⟨["ugar", "ugaritic"],
    ["ywY0t10"]⟩,
  ⟨["vaii", "vai"],
    ["xFE0Fb"]⟩,
  ⟨["vith", "vithkuqi"],
    ["yxHga1e16111a1e1611"]⟩,
  ⟨["wcho", "wancho"],
    ["zUS0xp50"]⟩,
  ⟨["wara", "warangciti"],
    ["yCB0yic0"]⟩,
  ⟨["yezi", "yezidi"],
    ["xMc0e030y09yywmx91221"]⟩,
  ⟨["yiii", "yi"],
    ["Iw115927Cv0XU4xAc3xmSQq4"]⟩,
  ⟨["zanb", "zanabazarsquare"],
    ["yCM0y7"]⟩]

end Detour.Unicode
