import Detour.Unicode.Packed

/-!
# Binary properties

The yes-or-no properties of characters that a pattern may name.
-/

namespace Detour.Unicode

/-- The characters that have each property. -/
def binaryProperties : List NamedSet := [
  ⟨["alpha", "alphabetic"],
    ["y1p6pxf0a0405m1u1K94be47010ym0th1123106012101j1yi1Aa8B51x5206x8x7d101111108q43ta5xn16ez51",
     "74742a220gxfdz4ox091405n2ijo7a5n15808x9ab366yb1f124edi17212l16103337212110804114c1a042154",
     "12l16111111444121407310h5b218121l16111438121130f3l34217212l161114372121914114d0g115321331",
     "101131323b4432123060x8c121m1f37121281122023s317121m1914371212816113d2cc121x8271212105374m",
     "5121h3n181026851017i1dxp5660xj110141n101i12241060e3x00xv71x34i4f1x3y3xm1024gxva32x510502x",
     "a1Gc132610132x8132x0132610132e1xo132y2x5fgyl253Pb2g1p5ya3a7jbkcjcc1211cxj2ie040y3yo7xa5y5",
     "au1b48nt24bxb4pxmr4xu2jxi0n1b2xhxj1e17xjx923axb1aexmm2ax32a5xa22x931511305Bvjx1bEl252x525",
     "271010101u2xk1610321633254c5216zk0d0gcz5040291034601010131a235440hx8VdxjxUmD46331cx510502",
     "xn70gm96161616161616161vxf0Kl2p874244yl621yp135xa1ythvxgfM0CJvy0RQcy3xd2Ec3fa1kxe573zgx78",
     "2z62y2211017lj1x0oxjcy310xc53012ax05x2ds3xi1bf0gfa41xm9dim3y41010o22f23b5252596161xa1d6zq",
     "lGZ3cm4xgEE4Hd2z9x66c45b1c141011111zbx1Haixv2xlx8bzk41A6x4p6pbyo35252522x3b1p1i111e2dx2zq",
     "y5xkEbs3xgxfvdt5xa5t2x34714xaAtix34x34x78xjca1e16111a1e16113xjcFm9la7o51x918y55201xb11302",
     "mam9uy1i11alapy6xn61y031157121sxas3sx371rrxlalaidhzey8xnxidxidx7x2r305mDqx91131g2xn03sa08",
     "lxahxekrm9y5xb4axo90donxih38x2309xv1391a010x3h1x12063xu610131e197xon317212l16111437212130",
     "6056s910201x519102013113010xcy11213k2uy12110Boxl26p5x2xu1030xrxl20y7q2dl6Bpxoz7xvv7202711",
     "1t112123yt72xd251011rxi29hy750iy8C7x0v81xc1610xht2l1dy96111xb3011121021o5111x4111310G7m9g",
     "1x832zf0yfYpz6zehC3yOcz0fxxfh5pzYq5O6CRpxexShNo7uhyehtixfg3vk5iJgxcCjxvA0ya4xo7gy0110c1eB",
     "/n8xClx99ET7316111F2f0t220e38IbyE4za5c387940BX1yk1y6112021231b10161y01327161r131410361Gj2",
     "o1o1u1o1u1o1u1o1u1o17xVku65Cl61g2611145xtx10zgxca6g0G1tixbL4rD4t20Lf613111e1C4xry33030xBk",
     "31q1110201913101060401010121110201010101011102316131310191g52141gPkp6p6pzPmxFSvx0Axp6Ct2B",
     "Q1eDFgfPdyJ2MtxL2AWa5Ayv"]⟩,
  ⟨["ahex", "asciihexdigit"],
    ["xg975q5"]⟩,
  ⟨["bidic", "bidicontrol"],
    ["xMs0CLh1q4xn3"]⟩,
  ⟨["bidim", "bidimirrored"],
    ["x81i010s010t010xd0f0zPu3xWt1yIs1a1xm1e1Bh0C033530313313101048501h539110171v2350912i519421",
     "4n2f83k171xxtdya023111253523dIjl251d807530441124401221a521ci13201020135162o1b14311214xa27",
     "1x750103452403410E00M333111e129xb7Jb927xPNt551B21i010s010t0101111xRXn0xp0xp0xp0xp0"]⟩,
  ⟨["ci", "caseignorable"],
    ["x7060b0x3010y7040104021LnBv41409110Dr6Cf050xhxc10111110xc0b5aa10x30akg0z571913x1010uqyrax",
     "qa4020onxb2xc07158x9xpxn010474036a1d0f0xq04380k1q021xp041412230u130b1xp0441140k1m510xq020",
     "138071b1u0xt0c0xi030xn012521371b1t0xq0206051k1s1xp14380k1t0y807210yq026b8z20289016y91r010",
     "10xnd14115a1x390z63151121p142g3d02160f0yu0P02Zi2t1u1u1y0116802a3050xd4xj0y11x20zm2419062C",
     "r120xq0161010276920x708uxh3xg0141050x88c1x032112xo0113012xq721y05yi21c16406031xixud0x2z4J",
     "t012b2d2d2d1c481a02024xh41910d0gcxjx0yYb1zh2zt0f0z0vxf0Kl0x433450yt5yt2XUm0xD25Ee0z231910",
     "s3yg1ex1ye0n2z7231803040p150An1qhd0x67paxe2xg02321h0l1y252121c080x30b0xj012215110r0e15110",
     "z4492zp02040PVg0AjgNtf30cfx2020B907060b0x3010xf0xd1y30l2M10D20Al4xw551x918O621153x8240B51",
     "Nt3x60q410Fr1yf3y6axh3zr0xmex9021a2xh3212040a0xi2x4417xu0c1xk8a320yv220116020At037l1xp130",
     "x5634y65d01010e1yl72210n0yk5104111De36111r1yl72011za0102510z50102314E3811E011040Ag32140x0",
     "9x8523809522xec11Im61510yil261111zq530111610y813010Gr1b1xk45010n0BClg6eHC8b32yK04xr693Ls2",
     "x81L20xvgy0111Mwb31611zAu113AOsxd2mN029f26u3Ak2xZrxm4xh80e0m41exGg61g2611145xtx10B0dHg0xt",
     "3Lr4Du1T06zd7yRf4Uzw10uyvA0Df"]⟩,
  ⟨["cased"],
    ["y1p6pxf0a0405m1u1C2134Cf1x371u4z00xa32123106012101j1yi1Aa8B51x59x8yUnx510502xa13R0yl25yA2",
     "a5xa22y0Bvy0El252x525271010101u2xk1610321633254c5216zk0d0gcz5040291034601010131540235440h",
     "v31VhxjxUmD46331cx51050+EixditA4z5331xt211017l412Vlxa1d6yfPW06c4xw9p6pxB5yfz0x34x3zka1e16",
     "111a1e1611K30221x918xC5xidxiytlalyUqxvRH0xvVI0yk1y6112021231b10161y01327161r131410361Gj2o",
     "1o1u1o1u1o1u1o1u1o17xVk91j65E5xtyAiy3x/cp6p6p"]⟩,
  ⟨["cwcf", "changeswhencasefolded"],
    ["y1pyq0am17x001010101010101010101010101010101010101010101010101010102010101010101010111010",
     "10101010101010101010101010101010101010101110101011101112231112311110101110201112101130711",
     "11110101010101010102010101010101010102110121010101010101010101010101010101010101010101010",
     "1010101010107111201310101010Dm0xa0103080601210111g18m0c2311010101010101010101010101121101",
     "12xixg01010101010101010101010101010101090101010101010101010101010101010101010101010101010",
     "10101110101010101020101010101010101010101010101010101010101010101010101010101010101010101",
     "01010101010101010101010102x5xg0yUox51050Va5yA296xa22G001010101010101010101010101010101010",
     "10101010101010101010101010101010101010101010101010101010101010101010101010101010101010101",
     "01010101010101010101010105120101010101010101010101010101010101010101010101010101010101010",
     "1010101010101010101010101010101010109785a78785b010101087gxf22255225b3c45225F903160xdfj0Vi",
     "pxVgxfxg012201010131020821010101010101010101010101010101010101010101010101010101010101010",
     "1010101010101010101010101010101010801040+Gd010101010101010101010101010101010101010101010j",
     "010101010101010101010101010A7010101010101030101010101010101010101010101010101010101010101",
     "010101010101010a0101110101010401020103010101010101010101014141010101010101013101130501010",
     "10o0XqyfPW06c4xw9pxC5x7A8x3Asa1e1611xTaxiAtlyVqvRI0v+R0x1"]⟩,
  ⟨["cwcm", "changeswhencasemapped"],
    ["y1p6pxq0am1u1xv1yj1r2d21104ys1h6q1110113113142011207020113550a1B60xa32132106012101j1xe3x0",
     "141A48B51x5ax6yUox510502xa22R0yl25yA2a5xa22Bp030g0zhAr201zl252x525271010101u2xk1610321633",
     "254c5216F903160r0hv31VhxjxUmzg11117z57331cx51050+EixdirA6d2xt9e32241o1t2146o1Ws0syfPW06c4",
     "xw9p6pxB5yfz0x34x3zka1e16111a1e1611xS3xidxiytlalyUqxvRH0xv+Q0y3"]⟩,
  ⟨["cwl", "changeswhenlowercased"],
    ["y1pz5m16x10101010101010101010101010101010101010101010101010101010201010101010101020101010",
     "10101010101010101010101010101010101010111010311011122311123111101011102011121011307111111",
     "01010101010101020101010101010101021101210101010101010101010101010101010101010101010101010",
     "101010107111201310101010F10103080601210111g18x308010101010101010101010105020112xixg010101",
     "01010101010101010101010101090101010101010101010101010101010101010101010101010101011101010",
     "10101020101010101010101010101010101010101010101010101010101010101010101010101010101010101",
     "01010101010102x5yW9x51050SiylyAj06xa22G00101010101010101010101010101010101010101010101010",
     "10101010101010101010101010101010101010101010101010101010101010101010101010101010101010101",
     "01010101010901010101010101010101010101010101010101010101010101010101010101010101010101010",
     "101010101010101010109785a78785b010101087o7878784b4b3c4b4F903160xdfj0VipxVgxfxg01220101013",
     "10208210101010101010101010101010101010101010101010101010101010101010101010101010101010101",
     "010101010101010801040+Gd010101010101010101010101010101010101010101010j0101010101010101010",
     "10101010A7010101010101030101010101010101010101010101010101010101010101010101010101010a010",
     "111010101040102010301010101010101010101414101010101010101310113050101010o0RVbpxC5x7A8x3As",
     "a1e1611xTaxiAtlyVqvRI0v+R0x1"]⟩,
  ⟨["cwt", "changeswhentitlecased"],
    ["z1pxq0x9n17101010101010101010101010101010101010101010101010101010102010101010101011101010",
     "10101010101010101010101010101010101010102010122010203050203220201010204020301020301040111",
     "11010101010101010111010101010101010121010301010101010101010101010101010101010101030101010",
     "101010101080211040101010151110113113142011207020113550a1B60xb0103032i0rx21132101010101010",
     "101010101014102020xkxf1010101010101010101010101010101010901010101010101010101010101010101",
     "01010101010101010101020101010101011101010101010101010101010101010101010101010101010101010",
     "101010101010101010101010101010101010101010xhx6zPg5yA2810De030g0zi010101010101010101010101",
     "01010101010101010101010101010101010101010101010101010101010101010101010101010101010101010",
     "10101010101010101010101010101010101650101010101010101010101010101010101010101010101010101",
     "010101010101010101010101010101010101010101885a78785a7878d2787878411603211832187a211Gm0x1f",
     "40WbpxW6xf10311010106020a0101010101010101010101010101010101010101010101010101010101010101",
     "01010101010101010101010101010101010801040cx51050+Ej01010101010101010101010101010101010101",
     "0101010j010101010101010101010101010A70101010101010301010101010101010101010101010101010101",
     "01010101010101010101010a010201010101040401120101010101010101010b0101010101010104010203050",
     "1010q0Ws0syfPW06c4xx9pxCdx7A8x3Ara1e1611xU3xiztlyVqvRI0v+R2x1"]⟩,
  ⟨["cwu", "changeswhenuppercased"],
    ["z1pxq0x9n17101010101010101010101010101010101010101010101010101010102010101010101011101010",
     "10101010101010101010101010101010101010102010122010203050203220201010204020301020301051111",
     "11010101010101011101010101010101011111030101010101010101010101010101010101010103010101010",
     "1010101080211040101010151110113113142011207020113550a1B60xb0103032i0rx2113210101010101010",
     "1010101014102020xkxf101010101010101010101010101010101090101010101010101010101010101010101",
     "01010101010101010102010101010101110101010101010101010101010101010101010101010101010101010",
     "1010101010101010101010101010101010101010xhx6yW8xa22To5yA2810De030g0zi01010101010101010101",
     "01010101010101010101010101010101010101010101010101010101010101010101010101010101010101010",
     "10101010101010101010101010101010101010165010101010101010101010101010101010101010101010101",
     "0101010101010101010101010101010101010101010101885a78785a7878d2xk114010321140332187a21140G",
     "h0x1f40WbpxW6xf10311010106020a01010101010101010101010101010101010101010101010101010101010",
     "1010101010101010101010101010101010101010801040cx51050+Ej010101010101010101010101010101010",
     "101010101010j010101010101010101010101010A701010101010103010101010101010101010101010101010",
     "1010101010101010101010101010a010201010101040401120101010101010101010b01010101010101040102",
     "030501010q0Ws0syfPW06c4xx9pxCdx7A8x3Ara1e1611xU3xiztlyVqvRI0v+R2x1"]⟩,
  ⟨["dash"],
    ["xd0xGs0xj0zO10xw50yw95xt0x70f0I60zw4020v140s0Ju0j0zf0xPIg1x50a0B90zP00Fu0"]⟩,
  ⟨["di", "defaultignorablecodepoint"],
    ["Bd0R10Sc0yW21xOj1yl4x/r4q4xhfADk0xPArfDf0B00yf8xLB73BCf7UHQ5z/v"]⟩,
  ⟨["dep", "deprecated"],
    ["G90xF90yE3010yx91yC55Rp1XTCm0"]⟩,
  ⟨["dia", "diacritic"],
    ["yu010y70604021LnAu1755h14091Dt4Ch0xng1q101110A6741A614132y3qyraxqax21zu7x99grxt0g033s0ya0",
     "g0ze0g0ze0g0xf2xs0g070zn0ze0g0ze0g0zd1g0zs0zf0c510zb0d4yb1r0101041y2211xu0zg011x8144p610a",
     "1S12Zk1u0Aka90Gr2F40k720xge2az80f0x68xm1xq0b1y21y05yio406022xixuypbx5aJt012b2d2d2d1zDg2Ft",
     "0Lq5z93yv0ZHi0c110s1yi1ex1z62zd1c0x50An0rhxp3x40yv0c0x40Al2y13xj0z4492A01PVg0U1fEe010xf0x",
     "d1y30Ts0xAv51x918Pt240B51Nr5x60q4If2y6axh3C00x90y81zo1xu0yc092z81Bi1yg1g0o634yp211d1yv030",
     "zr1Dr1zu0zm1zj0Ed1E2140As0yj0i0yh0J50E2011yh0J91n0BDceHCp0yK04xr6Nk1N2gyg1L/u31611DU1xd2m",
     "N02358726u3zQ2xtC26Hn0xt3Tu1T06zd212"]⟩,
  ⟨["emoji"],
    ["x306059zf040DYd0c0Co0m0yq5f1Hf1c0B60pa42C70D71a090xq314902021204020112030318250105bb12011",
     "10i021i5101131502141b15120511011k155132040202510201010603060a1f02040104210b1xg290e0e0Hk1K",
     "f2j1xj040xCq0c0Op010zLHa0Ca0B01c1e029ybp11n0k028l1Bex12zf21122yi221E61xub51n7127c0232041d",
     "120819052c28220104060306ylxgy557224930113029D3b40Erxe191Bozgc395xn7e2a68"]⟩,
  ⟨["ecomp", "emojicomponent"],
    ["x306059D+j0Cl0xTFb0xY+mpLr4xJg3UxPcyv"]⟩,
  ⟨["emod", "emojimodifier"],
    ["zY/r4"]⟩,
  ⟨["ebase", "emojimodifierbase"],
    ["FMt0Cr0g3zPzn0xs22022zl12ali3042127010o0C9140l041Be234yj0g290b0Nv02087609922xo0xt11110h21",
     "cD52xa8"]⟩,
  ⟨["epres", "emojipresentation"],
    ["EUq1Cd33020M91l1xibxb0j0d081h1518050l0711040207041s0x30104210xt2o0e0Wr1xj040zNBe0Ca0Bu029",
     "ybp10o0k02412l1Bex0c81y51lcxa44cg303y6101Bq2xud31ni0q1d0ymykxgy560322243b178D3b40Erxe191B",
     "ozgc395xn7e2a68"]⟩,
  ⟨["extpict", "extendedpictographic"],
    ["B9040DYd0c0Co0m0yq5f1Hf1c0yv0y60pa42C70D71a090xq3151b1zhazl2a1010603060a1f02040104210b4xd",
     "290e0e0Hk1Kf2j1xj040xCq0c0Op010zLH6Dvd2v0xs5c1e029ixorea0k028139Jh5Ft8E9xgzvzkbylxac3xo7a",
     "5x87uyhcxe191JoE0/t"]⟩,
  ⟨["ext", "extender"],
    ["Bn0Mo1Xe0Jp0Pm0A90yp0Tg0zv0yG30xo0P30Ie0y40AY90xb4z71yt2XUm0xLm0+20m0A90zc0l1Rzr0ywg1xKb0",
     "r040xC70F50zk1Li2xCf0QB91xAs110YGo1xBh0Wk2"]⟩,
  ⟨["grbase", "graphemebase"],
    ["x0yux1c1Ohzg72546101j1Cv7B51x52xh22xe01020209q45h9b01xdlf1z48061204v201ttyob0exa963n40903",
     "07e1o501a5uhx9xpxm10138312792s1117212l1610333011612110d1124n5015412l1611111142o310792210c",
     "018121l16111433801130f14b708117212l16111430206121f1124hb015321331101131323b5011321230lk62",
     "17121m1f3033j2202149791a121m1914312011o1114912ea121x8201152121142194p211h3n18102691667922",
     "cxf11b78cx5110141n1019119024109923x0n2q10101d1x3i05024xh7151cx5xc4060212o233f4c11251e1x71",
     "0502Ho132610132x8132x0132610132e1xo132y25s3p6yl252Qs3yo7hdi319hec12fxj207711b839696a596yo",
     "742x1105y5au43224115703x924bxb4p6a3xo213xn10901185d9696dymxfa3371s9b2v416xn102210dxf815e3",
     "xt5xa2ab0d0731512205Bvy0El252x525271010101u2xk1e1d251i22181a5n7xgg12q1c3x0xvAb4QpmalxUj2v",
     "1Gn315xc10502xn71fm9616161616161616x1ytx2p1yocClqxp6f1yl4z45xa1yt1yl9xf1YPc3xm9Grkxe40av2",
     "yf258Cd211017lf12131o24496xn8y3aboc1x58ob0ct6xf1141211c1a461o1x86121b21710292v1xi10312420",
     "10og27b5252596161xr4zk1113396GZ3cm4xgEE4Hd2z9x66c4501n141011111zsgJs2xl70x0fg9mx21i13441A",
     "64As2u352525223616d12b1p1i111e2dx2zq524xc3yn1c30xfxcA3s3xggq4x39t5x5at1x44dxaAt296x34x34x",
     "78xjbb1e16111a1e16113xjcFm9la7o51x918y55201xb11302m1y788xgi115x03q50y0xn4j2xef3121sa8787x",
     "vx0x46b9xl3s2q5p73c6ygy8xnxidxi7x9c96x58n81Cgu1x93021g2xrx78lb8mh43x6rkm901xlf64t1120cxg4",
     "12113eo799x3509h8x212bxj9017411f1jbh1r314511xv610131e1a6xe12d98117212l161114301013212130c",
     "6s910201x51011f011301211x7xn81301k1012uxf11601110202389B6xe1163202qx4xi811023b96cjxa10118",
     "1696jsq3011409mBpxe9020z4yic72027111n1411631299y672x98313r0ax7614790613xdd028dy879Bmx1e96",
     "81x5e015as3vp07020yb6111x5l09965111x441101079Fmi239e1x3813mym0fxhdYqz6ze14bC3yOcz2dxxfh5p",
     "zYq5O6CRptc239xS6No7u194yg196t70axf7ea9161k5iJgxpC6yqz5ya5xnbcy03sB/n8xClx99ET7316111F2f0",
     "t220e38IbyE4za5c38792020zX0Dp6JjAszjxsDlax62xr52m17t4xsly130zqjcjcym9oA7yk1y6112021231b10",
     "161y01327161r131410361Gj2F32Nhxn3xi71d16xzku65E5xtAixca62941G0tixb4950Kgr49Cmt2a40L061311",
     "1e1C428xgy3704941Uhy3ycxsC231q1110201913101060401010121110201010101011102316131310191g521",
     "41gxk1Eexb4z3ce2e1e1x4aBdxosdxb4871e5Aq+n4g3c3zm4yu6b40fb4xn896x78t2b41xuGjcd2c395xn7e2a6",
     "87Ai1z5xw6xFSvx0Axp6Ct2BQ1eDFgfPdyJ2MtxL2AWa5Ayv"]⟩,
  ⟨["grext", "graphemeextend"],
    ["U0zfEj6E7xc10111110y8axgkg0z56252113x30uqyraxq890o3181214xb2xr8xan1vxn010474036a1t0xq0102",
     "38090a1q021xp041412230u130b1xp0441140k1m510xq011138072a1u0xr010c090x8030xn012521371b1t0xq",
     "02110321371b1s1xp110238090a1t0y8040221080yh026c7z2028b6y91r01010xnd14115a1x390z63151121p1",
     "42g3d02160f0Rv2Zi3s2t1u1y0116802a90xd210zl1x20zm2419062Cr120xq0161010276920xguxh3xg942x68",
     "c1x0325xo0113014xo721Ao21c16406031C6xvMc0C3x0y/u2Ad0z0vNa5z91ZKk319x01yg1Eg03040p150An1qh",
     "d0x67pa10xc2xg0232120x40y352121c080xf0xj012215110xa180De02040PVg0T1fgfHe1Ot0D20Al4xQ62115",
     "3x8240B51Nt3y14Ft1yf3y6axh3zr0xmex9021a2xh32170xt2x4417xu0c1xk8108320yv2236020At037l1xp11",
     "010c090e634y30251020124210e1yl72210n0yh02510201111Db0236111r1yl72011za01027z50102314E3811",
     "Dl0a340Ag32140x09x8523809522xec11Im61510yil261111zq530111610y813010Gr1b1xk452n0BD506eHC8b",
     "32yK04xr6xwo0xv3yh0b1PBb1AP1xd2mMu4358726u3Ak2xZrxm4xh80e0m41exGg61g261114z40B06Hn0xt3Ls3",
     "Du1T06zd6UBSlyvA0Df"]⟩,
  ⟨["grlink", "graphemelink"],
    ["yGd0zv0zv0zv0zv0zv0zv0zv0zd1g0zs0zf0zv0C90Bk1xSp1u0At0Qd0D30z51y61AIb0+Q60x50An0Ae0zc0Fl0",
     "Dm0TOh0xM60x90e0xp0zp1Ab0zk0Bk0z20A02zh0zv0Ds0zv0zm0zk0Ed0E31B10yj0i0yh0J50E41yh0J91MLc0"]⟩,
  ⟨["hex", "hexdigit"],
    ["xg975q5x/R9975q5"]⟩,
  ⟨["hyphen"],
    ["xd0zv0xCs0APr0yw91zM50T30xPH70B90yn0"]⟩,
  ⟨["idcompatmathcontinue"],
    ["Bi150DZm03a1eHj040m0zJB20p0v0p0v0p0v0p0v0p0"]⟩,
  ⟨["idcompatmathstart"],
    ["EM2040m0zJB20p0v0p0v0p0v0p0v0p0"]⟩,
  ⟨["idc", "idcontinue"],
    ["xg97p401pxf0a010205m1u1K94be47010hzk11231064101j1yi1Aa142B51x5206x88xc101111108q43ta5y94z",
     "517291i20gxq2z4exl40202xdir4a5n158ya1A0291i17212l1610332821238041142ba0102215412l16111111",
     "201441223073107fb218121l16111429121220f329961217212l1611142821227241142910g11532133110113",
     "1323b4432132060e9gc121m1f2812137112202329g317121m19142812137161132912cc121xi1214537429a51",
     "21h3n181026304510176921dxp5e19x7110141n101m2410161923x00n169b01010491x34j1h1x390xpy96yd2x",
     "510502xa1Gc132610132x8132x0132610132e1xo132y22298efgyl253Pb2g1p5ya3a7l9lbjcc1211cyj304129",
     "x121a6yo7xa5y5au1b4bax724bxb4p6ax5r4xu1s2a69d08d1fxhyc39h8czjcxn893xg2a5xa22g21x65Ml252x5",
     "25271010101u2xk1610321633254c5216f1xh1j0s0d0gcxjc403bh0402910256010101f235440hx8yPnD468cx",
     "510502xn70fn96161616161616161vM52pe14244yl261yu5xa1ythvxgfM0CJvy0RQcy3xd2Ec3rkxf491zix582",
     "z62y2211017lxl40jxjcy5a96n301xg2x3cs3y0ea6u1xm9d296m3y8o22f24a5252596161xa1d6zq11296GZ3cm",
     "4xgEE4Hd2z9x66c45b1c141011111zbx1Haixv2xlx8b4fgf31o2x041A6j97p401payp35252522x3b1p1i111e2",
     "dx2zqy5xkA80A2s3xgf0vvdt5xa5t2x34714xaAt296x34x34x78xjca1e16111a1e16113xjcFm9la7o51x918y5",
     "5201xb11302mam9uy1i11alapy6xn61y031157121s2240x0s3sx371tpxlalaidhzey8xnxidxidx7896x5341mD",
     "qx91131g2xnx0a08x0vlxakrm9y6vf9xr70do796xk19438x3209y4431c10x3h1x463xu610131e197xq5963172",
     "12l1611141921222060562634b910201x51910201317d1tya5943uy51089B6xl28n5x2y030b9x6xo796jsq2e4",
     "966Bpxqz5y9l72027111t1128c9y672xd2711rxu808y930iy8C7x0f9681xc18f9ot2l1dy96111xb3011188965",
     "111x4111579Fmm9g1x834dayl0yfYpz6zehC3yOcz0fxxfglazYq5O6CRpxpxS6No7u196ye196t24bxm93c99k5i",
     "Jgxc39C6xvA0ya4xo7gy0111b1eB/n8xClx99ET7316111F2f0t220e38IbyE4za5c387931Ayh9M6xd2mMu43587",
     "26u3Ak2Jryk1y6112021231b10161y01327161r131410361Gj2o1o1u1o1u1o1u1o1u1o172xhM0xm4xh80e0m41",
     "exygu65Cl61g2611145xtx10zgxc3d2940G1uhxpKmx9CmxaL5613111e1C4b6x9yb49xB631q111020191310106",
     "0401010121110201010101011102316131310191g52141gzFk9xw6xFSvx0Axp6Ct2BQ1eDFgfPdyJ2MtxL2AWa5",
     "AyvRTGgDf"]⟩,
  ⟨["ids", "idstart"],
    ["y1p6pxf0a0405m1u1K94be47010A141123106012101j1yi1Aa8B51x5206x8y7q43xdxax311z210f171a220g01",
     "ttyob0ox091405l409030no7a5n15hx9xqxl30i079ff47212l16103330g0d112e1a085412l16111111v310j2g",
     "8121l16111430i0f1n0b7212l16111430u112f0h015321331101131323bm0xk7121m1f30q22021u047121m191",
     "430v111f1h8121x820g05282o55h3n181026xqxf11c6xq110141n101911902410l3x00xv71x3r4zjxak0g5433",
     "031724cc0hx510502xa1Gc132610132x8132x0132610132e1xo132y2x5fgyl253Pb2g1p5ya3a7hdiehec12fxj",
     "x3040y3yo7x8105y5auxht24bxb4pxmm9xkyi0ytxeh7xmtd1axbqx3x92ax32a5xa22x931511305Bvy0El252x5",
     "25271010101u2xk1610321633254c5216zk0d0gcz50402910256010101f235440hx8yPnD46331cx510502xn70",
     "gm9616161616161616N62p874244yl441yp135xa1ythvxgfM0CJvy0RQcy3xd2Ec3fa1kxegu2yfx782z62y2211",
     "017lf12131mtxjexhxu53011bramps7xes0g419a41x8n217km303xh1031242010o22a72c5252596161xa1d6zi",
     "tGZ3cm4xgEE4Hd2z9x66c450191c141011111zbx1Haixv2xlx8bzk41A6x4p6pbyo35252522x3b1p1i111e2dx2",
     "zqy5xkEbs3xgxfvdt5x5at2x34714xaAtix34x34x78xjca1e16111a1e16113xjcFm9la7o51x918y55201xb113",
     "02mam9uy1i11alapy6xn61y00f3121sxas3sx371rrxlalaidhzey8xnxidxidx3x6r9mDqx961g2xrsa08lxahxe",
     "krmcxkxp120dxcx0oqx3t0208x230cxfe3l010x3h1oj1xv610131e197xex67212l16111430i0c4u910201x510",
     "p010xcxki3k2uxfk110Boxex93x4xfk0xrxad0y7qx56Bpxbzkxvv72027111nf010yu72x6g010s0ax770l0bxdj",
     "0iy8C7x0v81x4h0xhtzg6111x5l0p5111ve0G7if01c1x1zs0yfYpz6zehC3yOcz0fxxfh5pzYq5O6CRptxT2No7u",
     "hyehtixfg3vk5iJgxcCjxvA0ya50y2cy0110sB/n8xClx99ET7316111F2f0t220e38IbyE4za5c3879BX6yk1y61",
     "12021231b10161y01327161r131410361Gj2o1o1u1o1u1o1u1o1u1o17xVku65E5xtAixca6g0G1tixbL4rD4t20",
     "Lf613111e1C4xry370xBk31q1110201913101060401010121110201010101011102316131310191g52141gAG4",
     "xFSvx0Axp6Ct2BQ1eDFgfPdyJ2MtxL2AWa5Ayv"]⟩,
  ⟨["ideo", "ideographic"],
    ["Iw61p8e2+5CJvy0QLvSE0Hd2z9ZEa0rB/n8xClx99Fz7IbPE4xFSvx0Axp6Ct2BQ1eDFgfPdyJ2MtxL2AWa5Ayv"]⟩,
  ⟨["idsb", "idsbinaryoperator"],
    ["H/g129Lh0"]⟩,
  ⟨["idst", "idstrinaryoperator"],
    ["H/i1"]⟩,
  ⟨["idsu", "idsunaryoperator"],
    ["H/u1"]⟩,
  ⟨["joinc", "joincontrol"],
    ["Ewc1"]⟩,
  ⟨["loe", "logicalorderexception"],
    ["zO04zr4yTg220xADq12011"]⟩,
  ⟨["lower", "lowercase"],
    ["z1pxf0a040x4n1710101010101010101010101010101010101010101010101010101011101010101010101110",
     "10101010101010101010101010101010101010101010201012201020314020322020101020111020301021226",
     "02020101010101010101110101010101010101120103010101010101010101010101010101010101010101010",
     "10101010101016202110401010101y41x371u4z00xb0103023i0rx21132101010101010101010101014102021",
     "xjxf1010101010101010101010101010101010901010101010101010101010101010101010101010101010101",
     "01020101010101011101010101010101010101010101010101010101010101010101010101010101010101010",
     "101010101010101010101010xgx8yW7xa13To5yA2810zlBvy1010101010101010101010101010101010101010",
     "10101010101010101010101010101010101010101010101010101010101010101010101010101010101010101",
     "01010101010101010101810101010101010101010101010101010101010101010101010101010101010101010",
     "10101010101010101010101010101885a78785a7878d2787878411603211832187a211zp0d0gczd03130r0404",
     "0218340x1f40WbpxW6xf103110101040111730101010101010101010101010101010101010101010101010101",
     "01010101010101010101010101010101010101010101011701040cx51050+Ej01010101010101010101010101",
     "0101010101010101010j010101010101010101010101012A50101010101012101010101010101010101010101",
     "01010101010101010101010101010101019101020101010104010201210101010101010101010505010101010",
     "101010401020301010101010m21012Vlxa1d6yfPW06c4xx9pxCdx7A8x3Ara1e1611K30221x918xE5xiztlyVqv",
     "RI0vVIqpq61hqpq310161aqpqpqpqpqpqpqpqpqrso15qo15qo15qo15qo1510xVk91j65E5xtyBkx1"]⟩,
  ⟨["math"],
    ["xb0g2v0t010xd040x50v0So220q122Mf2CMd0r2b030d0e3l4b4y1c403144i04029102560312112153d10y4n15",
     "11414v1061eEb83k1yq0uq10o0b6Jt1c945412134e01025b751xp010t392GgxvE0Lvxgk25xP+s0Vn510B20g2t",
     "010t010A3063zJ11xNPgyk1y6112021231b10161y01327161r131410361Gj2F32xhBM031q1110201913101060",
     "401010121110201010101011102316131310191g52141gxk1"]⟩,
  ⟨["mcm", "modifiercombiningmark"],
    ["xOk120A306031L111230v0"]⟩,
  ⟨["nchar", "noncharactercodepoint"],
    ["x/KgvMe1x//u1x//u1x//u1x//u1x//u1x//u1x//u1x//u1x//u1x//u1x//u1x//u1x//u1x//u1x//u1x//u1"]⟩,
  ⟨["oalpha", "otheralphabetic"],
    ["W50tcO0d10111110y8axgc16g0z56432140x30ufz6az51381213za0xsb366jxm12e1152a1t2xq62121a0a1t2x",
     "q4412140u130b2xq71211l1m242xq6212191a1u0xr43212a0x84xp6121281b1t2xq6121281b1f0c3xq61212a0",
     "a1t2yb51017i1xt026i0z302511g0B3i9a1x3zeb1023n342122633db10a3xPk1u1u1u1y2iBs1x20zmb48Cu4xp",
     "92jya1b2xh4xgexs2u821xpaxiiIsx1xS1xjyDmv+zk7x21H2080n4yo1xif10xp0x64sbxd3xgbx50y3dc081xd2",
     "xi0122150xc450Dd7PVj0yyn4xQ621153Uk3y10G11yf0E32xldxd1b2xd890xt2x4bi1xp2xgce1ys8206020At9",
     "n3xq62121a0a1yk810201311z7c12zahDd626t1yie10zaaz7dE1cDn511213010Ae62540s9xa413iaxedIn716y",
     "jl1dzq53011121030y241113Gs39110xg632MKtgzN001xm73yt1PBc0EX161g261114z40yBn0x/8p6p6p"]⟩,
  ⟨["odi", "otherdefaultignorablecodepoint"],
    ["Wf0zMf1xOj1yBf0ADu0xPNr0yf8Www701tz0zvDgzMf"]⟩,
  ⟨["ogrext", "othergraphemeextend"],
    ["yJu0o0H60o0z60o0D8010411191z70o0zn0f0yFl0u0xw00501051z50y71xwo0Ax11+F30zc0RKt1AN00zk0E80e",
     "090z0090201250D00c0Dh0E60Pp0c0xM30QBe1UHj165UHRdyv"]⟩,
  ⟨["oidc", "otheridcontinue"],
    ["Bn0Sf0z/18xP80xNh1ADd0xPP90"]⟩,
  ⟨["oids", "otheridstart"],
    ["CA51yAh0l0zXc1"]⟩,
  ⟨["olower", "otherlowercase"],
    ["Ba0f0Ll871u4z00xk0zI10zxfxud0x2x4Rh0d0gcCjfWgpxYi1+Mu1Ci0A1231X2390Twm0221x918xSzlxt"]⟩,
  ⟨["omath", "othermath"],
    ["yu0Xh220q121Dx00r2b0x03o1e1y1c403144i04029103460312112153354yb4231111101421414h2110161061",
     "F23B8110o0h0Jt1c854512134e01025o1xp010t391Gm1v9Ijlxv3x01xRz301040Cj010xRC1yk1y6112021231b",
     "10161y01327161r131410361Gj2o1o1u1o1u1o1u1o1u1o172xhBM031q11102019131010604010101211102010",
     "10101011102316131310191g52141g"]⟩,
  ⟨["oupper", "otheruppercase"],
    ["EH0fW6pzPz0p6p6p"]⟩,
  ⟨["patsyn", "patternsyntax"],
    ["x1ea6q310q3x2610111011404030n0v0DUon8e2i19FhSfB0PluxzbM0zvI124of0xPEd1E51"]⟩,
  ⟨["patws", "patternwhitespace"],
    ["94i0z40DY81o1"]⟩,
  ⟨["pcm", "prependedconcatenationmark"],
    ["xM05Cn0xh0I01yg0yx+q0f0"]⟩,
  ⟨["qmark", "quotationmark"],
    ["x2040A30f0DWs7p1zM70K93d2xPN13Bt040yq1"]⟩,
  ⟨["radical"],
    ["HQ0p1yocCl"]⟩,
  ⟨["ri", "regionalindicator"],
    ["zYL6p"]⟩,
  ⟨["sterm", "sentenceterminal"],
    ["x10c0g0xG90Aj2Bk0xb2Dm0xt01031F51xT41Um041U50C61At1xd050Fq1H23B21a121t2Br1y11Z40n192zBf2F",
     "i0d0m1Jd0ZDs0Ee1D3030Hu1ym1yv0Ao1Aj2Ag1Dp0QN6021xr031B90c0g0y10yTk1xDt4xc3Bt1zl3zv2A1160g",
     "1yo111zc0Fa1zl1Hl15ez91Dp2M5010Dr1yn1J41Rk1ya1OV91A50y11b0N91F80PM60DL80"]⟩,
  ⟨["sd", "softdotted"],
    ["z91C40Ep0u0xk0k0G00z2010CE90xj0d030A40At0J50Cm1yVi0zFZ51xi1xi1xi1xi1xi1xi1xi1xi1xi1xi1xi1",
     "xi1yA60Fh1q0"]⟩,
  ⟨["term", "terminalpunctuation"],
    ["x10a010b130Vu080M10xp0y80e012Bk0xba10Db1xm517v0E51xDk1Bc045Fn1Ul7U50zs2y71At230x7321Fq1H2",
     "3B21a112t2Br4xu1Z40n192zBf2Fi0d040a01131Jc1ZDr1Ed2D34Hu1ym1yv0An2Aj2zv0g1Dp0QN6021xp213B9",
     "0a010b130y1020xxq0xg0xA60C70Fm1Ao5y45yp3Zo4xc3Bt6zg3zv2A1160g1yo4zc0Fa1zl2c1H633ez91Dp2M5",
     "010Dr1yn141Iu2xd0Q51ya1xFb4NLp1A50y12a0N91F71PM60DL73"]⟩,
  ⟨["uideo", "unifiedideograph"],
    ["Jw0CJvy0QLvSMe11011a0101122yxKmxFSvx0Axp6Ct2BQ1eDFgfPdAJ2AWa5Ayv"]⟩,
  ⟨["upper", "uppercase"],
    ["y1pz5m16x10101010101010101010101010101010101010101010101010101010201010101010101020101010",
     "10101010101010101010101010101010101010111010311011122311123111101011102011121011307020202",
     "01010101010101020101010101010101020201210101010101010101010101010101010101010101010101010",
     "101010107111201310101010F10103080601210111g18x30223010101010101010101010105020112xixg0101",
     "01010101010101010101010101010901010101010101010101010101010101010101010101010101010111010",
     "10101010201010101010101010101010101010101010101010101010101010101010101010101010101010101",
     "0101010101010102x5yW9x51050SiylyAj06xa22G001010101010101010101010101010101010101010101010",
     "10101010101010101010101010101010101010101010101010101010101010101010101010101010101010101",
     "01010101010109010101010101010101010101010101010101010101010101010101010101010101010101010",
     "10101010101010101010109785a78785b010101087y83c3c3c4b3E6040322220346010101323a150qfj0VipxV",
     "gxfxg012201010131020821010101010101010101010101010101010101010101010101010101010101010101",
     "0101010101010101010101010101010801040+Gd010101010101010101010101010101010101010101010j010",
     "101010101010101010101010A7010101010101030101010101010101010101010101010101010101010101010",
     "101010101010a010111010101040102010301010101010101010101414101010101010101310113050101010o",
     "0RVbpxC5x7A8x3Asa1e1611xTaxiAtlyVqvRI0vVJ0pqpqpq01120212317qpq1132716r113141036rpqpqpqpqp",
     "qpuox1ox1ox1ox1ox10AFlx1ywep6p6p"]⟩,
  ⟨["vs", "variationselector"],
    ["Cwb210xVLgfWwTgDf"]⟩,
  ⟨["wspace", "whitespace", "space"],
    ["94i0z40q0BKv0yHvat150xf0zZ00"]⟩,
  ⟨["xidc", "xidcontinue"],
    ["xg97p401pxf0a010205m1u1K94be47010hzk11321064101j1yi1Aa142B51x5206x88xc101111108q43ta5y94z",
     "517291i20gxq2z4exl40202xdir4a5n158ya1A0291i17212l1610332821238041142ba0102215412l16111111",
     "201441223073107fb218121l16111429121220f329961217212l1611142821227241142910g11532133110113",
     "1323b4432132060e9gc121m1f2812137112202329g317121m19142812137161132912cc121xi1214537429a51",
     "21h3n181026304510176921dxp5e19x7110141n101m2410161923x00n169b01010491x34j1h1x390xpy96yd2x",
     "510502xa1Gc132610132x8132x0132610132e1xo132y22298efgyl253Pb2g1p5ya3a7l9lbjcc1211cyj304129",
     "x121a6yo7xa5y5au1b4bax724bxb4p6ax5r4xu1s2a69d08d1fxhyc39h8czjcxn893xg2a5xa22g21x65Ml252x5",
     "25271010101u2xk1610321633254c5216f1xh1j0s0d0gcxjc403bh0402910256010101f235440hx8yPnD468cx",
     "510502xn70fn96161616161616161vM52pe14244yl21221yu5xa1ythvxgfM0CJvy0RQcy3xd2Ec3rkxf491zix5",
     "82z62y2211017lxl40jxjcy5a96n301xg2x3cs3y0ea6u1xm9d296m3y8o22f24a5252596161xa1d6zq11296GZ3",
     "cm4xgEE4Hd2z9x66c45b1c141011111zbx1Aa6Cpixv2xlx896fgf31o2x1010301010101ztj97p401payp35252",
     "522x3b1p1i111e2dx2zqy5xkA80A2s3xgf0vvdt5xa5t2x34714xaAt296x34x34x78xjca1e16111a1e16113xjc",
     "Fm9la7o51x918y55201xb11302mam9uy1i11alapy6xn61y031157121s2240x0s3sx371tpxlalaidhzey8xnxid",
     "xidx7896x5341mDqx91131g2xnx0a08x0vlxakrm9y6vf9xr70do796xk19438x3209y4431c10x3h1x463xu6101",
     "31e197xq596317212l1611141921222060562634b910201x51910201317d1tya5943uy51089B6xl28n5x2y030",
     "b9x6xo796jsq2e4966Bpxqz5y9l72027111t1128c9y672xd2711rxu808y930iy8C7x0f9681xc18f9ot2l1dy96",
     "111xb3011188965111x4111579Fmm9g1x834dayl0yfYpz6zehC3yOcz0fxxfglazYq5O6CRpxpxS6No7u196ye19",
     "6t24bxm93c99k5iJgxc39C6xvA0ya4xo7gy0111b1eB/n8xClx99ET7316111F2f0t220e38IbyE4za5c387931Ay",
     "h9M6xd2mMu4358726u3Ak2Jryk1y6112021231b10161y01327161r131410361Gj2o1o1u1o1u1o1u1o1u1o172x",
     "hM0xm4xh80e0m41exygu65Cl61g2611145xtx10zgxc3d2940G1uhxpKmx9CmxaL5613111e1C4b6x9yb49xB631q",
     "1110201913101060401010121110201010101011102316131310191g52141gzFk9xw6xFSvx0Axp6Ct2BQ1eDFg",
     "fPdyJ2MtxL2AWa5AyvRTGgDf"]⟩,
  ⟨["xids", "xidstart"],
    ["y1p6pxf0a0405m1u1K94be47010A141132106012101j1yi1Aa8B51x5206x8y7q43xdxax311z210f171a220g01",
     "ttyob0ox091405l409030no7a5n15hx9xqxl30i079ff47212l16103330g0d112e1a085412l16111111v310j2g",
     "8121l16111430i0f1n0b7212l16111430u112f0h015321331101131323bm0xk7121m1f30q22021u047121m191",
     "430v111f1h8121x820g05282o55h3n181026xqxf10d6xq110141n101910a02410l3x00xv71x3r4zjxak0g5433",
     "031724cc0hx510502xa1Gc132610132x8132x0132610132e1xo132y2x5fgyl253Pb2g1p5ya3a7hdiehec12fxj",
     "x3040y3yo7x8105y5auxht24bxb4pxmm9xkyi0ytxeh7xmtd1axbqx3x92ax32a5xa22x931511305Bvy0El252x5",
     "25271010101u2xk1610321633254c5216zk0d0gcz50402910256010101f235440hx8yPnD46331cx510502xn70",
     "gm9616161616161616N62p874244yl621yp135xa1ythvxgfM0CJvy0RQcy3xd2Ec3fa1kxegu2yfx782z62y2211",
     "017lf12131mtxjexhxu53011bramps7xes0g419a41x8n217km303xh1031242010o22a72c5252596161xa1d6zi",
     "tGZ3cm4xgEE4Hd2z9x66c450191c141011111zbx1Aa6Cpixv2xlx89zn010301010101ztx4p6pbxn2u35252522",
     "x3b1p1i111e2dx2zqy5xkEbs3xgxfvdt5x5at2x34714xaAtix34x34x78xjca1e16111a1e16113xjcFm9la7o51",
     "x918y55201xb11302mam9uy1i11alapy6xn61y00f3121sxas3sx371rrxlalaidhzey8xnxidxidx3x6r9mDqx96",
     "1g2xrsa08lxahxekrmcxkxp120dxcx0oqx3t0208x230cxfe3l010x3h1oj1xv610131e197xex67212l16111430",
     "i0c4u910201x510p010xcxki3k2uxfk110Boxex93x4xfk0xrxad0y7qx56Bpxbzkxvv72027111nf010yu72x6g0",
     "10s0ax770l0bxdj0iy8C7x0v81x4h0xhtzg6111x5l0p5111ve0G7if01c1x1zs0yfYpz6zehC3yOcz0fxxfh5pzY",
     "q5O6CRptxT2No7uhyehtixfg3vk5iJgxcCjxvA0ya50y2cy0110sB/n8xClx99ET7316111F2f0t220e38IbyE4za",
     "5c3879BX6yk1y6112021231b10161y01327161r131410361Gj2o1o1u1o1u1o1u1o1u1o17xVku65E5xtAixca6g",
     "0G1tixbL4rD4t20Lf613111e1C4xry370xBk31q11102019131010604010101211102010101010111023161313",
     "10191g52141gAG4xFSvx0Axp6Ct2BQ1eDFgfPdyJ2MtxL2AWa5Ayv"]⟩]

end Detour.Unicode
