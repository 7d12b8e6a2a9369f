import Detour.Unicode.Packed

/-!
# Segments of text

The part of characters in clusters that are seen as one, in words and in sentences. Characters
without a part of their own are in no set.
-/

namespace Detour.Unicode

/-- The characters of each part in clusters. -/
def clusterParts : List NamedSet := [
  ⟨["cr"],
    ["d0"]⟩,
  ⟨["cn", "control"],
    ["09111hyvx0d0xHe0ALh0x/s021o6xhfxTQf0DgbJxkfxyz03BCf7UHQ5vz0zvDgzMf"]⟩,
  ⟨["ex", "extend"],
    ["U0zfEj6E7xc10111110y8axgkg0z56252113x30uqyraxq890o3181214xb2xr8xan1vxn010474036a1t0xq0102",
     "38090a1q021xp041412230u130b1xp0441140k1m510xq011138072a1u0xr010c090x8030xn012521371b1t0xq",
     "02110321371b1s1xp110238090a1t0y8040221080yh026c7z2028b6y91r01010xnd14115a1x390z63151121p1",
     "42g3d02160f0Rv2Zi3s2t1u1y0116802a90xd210zl1x20zm2419062Cr120xq0161010276920xguxh3xg942x68",
     "c1x0325xo0113014xo721Ao21c16406031C6xvMc0C3x0y/u2Ad0z0vNa5z91ZKk319x01yg1Eg03040p150An1qh",
     "d0x67pa10xc2xg0232120x40y352121c080xf0xj012215110xa180De02040PVg0T1fgfHe1Ot0D20Al4xQ62115",
     "3x8240B51Nt3y14Ft1yf3y6axh3zr0xmex9021a2xh32170xt2x4417xu0c1xk8108320yv2236020At037l1xp11",
     "010c090e634y30251020124210e1yl72210n0yh02510201111Db0236111r1yl72011za01027z50102314E3811",
     "Dl0a340Ag32140x09x8523809522xec11Im61510yil261111zq530111610y813010Gr1b1xk452n0BD506eHC8b",
     "32yK04xr6xwo0xv3yh0b1PBb1AP1xd2mMu4358726u3Ak2xZrxm4xh80e0m41exGg61g261114z40B06Hn0xt3Ls3",
     "Du1T06zd6yRg4Uzx0yvA0Df"]⟩,
  ⟨["l"],
    ["AE0yvxCw0s"]⟩,
  ⟨["lf"],
    ["a0"]⟩,
  ⟨["lv"],
    ["xHw00r0r0r0r0r0r0r0r0r0r0r0r0r0r0r0r0r0r0r0r0r0r0r0r0r0r0r0r0r0r0r0r0r0r0r0r0r0r0r0r0r0r0",
     "r0r0r0r0r0r0r0r0r0r0r0r0r0r0r0r0r0r0r0r0r0r0r0r0r0r0r0r0r0r0r0r0r0r0r0r0r0r0r0r0r0r0r0r0r",
     "0r0r0r0r0r0r0r0r0r0r0r0r0r0r0r0r0r0r0r0r0r0r0r0r0r0r0r0r0r0r0r0r0r0r0r0r0r0r0r0r0r0r0r0r0",
     "r0r0r0r0r0r0r0r0r0r0r0r0r0r0r0r0r0r0r0r0r0r0r0r0r0r0r0r0r0r0r0r0r0r0r0r0r0r0r0r0r0r0r0r0r",
     "0r0r0r0r0r0r0r0r0r0r0r0r0r0r0r0r0r0r0r0r0r0r0r0r0r0r0r0r0r0r0r0r0r0r0r0r0r0r0r0r0r0r0r0r0",
     "r0r0r0r0r0r0r0r0r0r0r0r0r0r0r0r0r0r0r0r0r0r0r0r0r0r0r0r0r0r0r0r0r0r0r0r0r0r0r0r0r0r0r0r0r",
     "0r0r0r0r0r0r0r0r0r0r0r0r0r0r0r0r0r0r0r0r0r0r0r0r0r0r0r0r0r0r0r0r0r0r0r0r0r0r0r0r0r0r0r0r0",
     "r0r0r0r0r0r0r0r0r0r0r0r0r0r0r0r0r0r0r0r0r0r0r0r0r0r0r0r0r0r0r0r0r0r0r0r0r0r0r0r0r0r0r0r0r",
     "0r0r0r0r0r0r0r0r0r0r0r0r0r0r0r0r0r0r0r0r0r0r0r0r0r0r0r0r0r0r0r0r0r0r0r0r0r0r0r0r0r0r0r0r0"]⟩,
  ⟨["lvt"],
    ["xHw1q1q1q1q1q1q1q1q1q1q1q1q1q1q1q1q1q1q1q1q1q1q1q1q1q1q1q1q1q1q1q1q1q1q1q1q1q1q1q1q1q1q1q",
     "1q1q1q1q1q1q1q1q1q1q1q1q1q1q1q1q1q1q1q1q1q1q1q1q1q1q1q1q1q1q1q1q1q1q1q1q1q1q1q1q1q1q1q1q1",
     "q1q1q1q1q1q1q1q1q1q1q1q1q1q1q1q1q1q1q1q1q1q1q1q1q1q1q1q1q1q1q1q1q1q1q1q1q1q1q1q1q1q1q1q1q",
     "1q1q1q1q1q1q1q1q1q1q1q1q1q1q1q1q1q1q1q1q1q1q1q1q1q1q1q1q1q1q1q1q1q1q1q1q1q1q1q1q1q1q1q1q1",
     "q1q1q1q1q1q1q1q1q1q1q1q1q1q1q1q1q1q1q1q1q1q1q1q1q1q1q1q1q1q1q1q1q1q1q1q1q1q1q1q1q1q1q1q1q",
     "1q1q1q1q1q1q1q1q1q1q1q1q1q1q1q1q1q1q1q1q1q1q1q1q1q1q1q1q1q1q1q1q1q1q1q1q1q1q1q1q1q1q1q1q1",
     "q1q1q1q1q1q1q1q1q1q1q1q1q1q1q1q1q1q1q1q1q1q1q1q1q1q1q1q1q1q1q1q1q1q1q1q1q1q1q1q1q1q1q1q1q",
     "1q1q1q1q1q1q1q1q1q1q1q1q1q1q1q1q1q1q1q1q1q1q1q1q1q1q1q1q1q1q1q1q1q1q1q1q1q1q1q1q1q1q1q1q1",
     "q1q1q1q1q1q1q1q1q1q1q1q1q1q1q1q1q1q1q1q1q1q1q1q1q1q1q1q1q1q1q1q1q1q1q1q1q1q1q1q1q1q1q1q1q"]⟩,
  ⟨["pp", "prepend"],
    ["xM05Cn0xh0I01yg0xzb0ywXe0f0Dk1Md0xHd010Do0y95Rs0Jr0"]⟩,
  ⟨["ri", "regionalindicator"],
    ["zYL6p"]⟩,
  ⟨["sm", "spacingmark"],
    ["yE30xn0228311xi1xr16121xm0xq2y20xq28011xl1xs06121zi0113212xk2xt3xt1xq02011xe0e1xr15212xl1",
     "yc166j1xv0zv0Aa1xv0Bh091p1xc0xVh07711Gq3224115D01xq010l5Ah0xp3y00u041xv02210xl781Bb0l0xyV",
     "b120yo1xifAe0xg0xg14121zf121o0At02150Dd1111110Vwj010zv0xd241zj0o1xr0xg290e0yt231Bc2v1xr01",
     "32121l1yl1f011z728130zb160111020De16320zh28110zd011ze070E5290Do4117010Ae28340yk0t1xu0In0e",
     "0za07020Cl44110Gu1c0xg181MLa2zN4xm"]⟩,
  ⟨["t"],
    ["AJ8ynxNKbxg"]⟩,
  ⟨["v"],
    ["AH0y7xNM8mxBIs033"]⟩,
  ⟨["zwj"],
    ["Ewd0"]⟩]

/-- The characters of each part in words. -/
def wordParts : List NamedSet := [
  ⟨["le", "aletter"],
    ["y1p6pxf0a0405m1u1Kv6x1zg41123106012101j1yi1Aa8B51x523101x810z80xcxax311z210f171a220f11tty",
     "ob0ox091405l409030no7a5n15hx9xqxl30i079ff47212l16103330g0d112e1a085412l16111111v310j2g812",
     "1l16111430i0f1n0b7212l16111430u112f0h015321331101131323bm0xk7121m1f30q22021u047121m191430",
     "v111f1h8121x820g05282o55h3n181026Fp0xv71x3r4Ejx510502xa1Gc132610132x8132x0132610132e1xo13",
     "2y2x5fgyl253Pb2g1p5ya3a7hdiehec12Bfyo742x1105y5auD1mDexeh7xmtd1axbqx3x92ax32a5xa22x931511",
     "305Bvy0El252x525271010101u2xk1610321633254c5216zk0d0gcz5040291034601010131a235440hx8Vdxjx",
     "UmD46331cx510502xn70gm9616161616161616yg0Kl0xl1C8xa1ythvXO0xAcy3xd2Ec3fa1kxegu2yfoC521101",
     "7lf12131mtxjexhxu53011bramps7xes0xgx8n217Aka72c5252596161xp6zitGZ3cm4xgEU46c4xoz1x1Haixv2",
     "xlx8bzk41A6x4p6py5u35252522x3b1p1i111e2dx2zqy5xkEbs3xgxfvdt5x5at2x34714xaAtix34x34x78xjca",
     "1e16111a1e16113xjcFm9la7o51x918y55201xb11302mam9uy1i11alapy6xn61y00f3121sxas3sx371rrxlala",
     "idhzey8xnxidxidx3x6r9mDqx961g2xrsa08lxahxekrmcxkxp120dxcx0oqx3t0208x230cxfe3l010x3h1oj1xv",
     "610131e197xex67212l16111430i0c4u910201x510p010xcxki3k2uxfk110Boxex93x4xfk0xrxad0G7xbzkxvv",
     "72027111nf010yu72x6g010s0ax770l0bxdj0iy8C7x0v81x4h0xhtzg6111x5l0p5111ve0G7if01c1x1zs0yfYp",
     "z6zehC3yOcz0fxxfh5pzYq5O6CRptxT2No7uhyehtixfg3vk5iJgxcCjxvA0ya50y2cy0110Pwsza5c3879BX6yk1",
     "y6112021231b10161y01327161r131410361Gj2o1o1u1o1u1o1u1o1u1o17xVku65E5xtAixca6g0G1tixbL4rD4",
     "t20Lf613111e1C4xry370xBk31q1110201913101060401010121110201010101011102316131310191g52141g",
     "Pkp6p6p"]⟩,
  ⟨["cr"],
    ["d0"]⟩,
  ⟨["dq", "doublequote"],
    ["x20"]⟩,
  ⟨["extend"],
    ["U0zfEj6E7xc10111110y8axgkg0z56252113x30uqyraxq890o3181214xb2xr8xan1x0xm21h16a1t2xo0162122",
     "90a1q022xo014412230u130b2xo0171212k1m512xo016212272a1u0xr4321390x84xn016121371b1t2xo01612",
     "1371b1f0c3xn116121390a1t2y60451017i1xt026c7z2028b6y91r0101041xhj115a1x390z4jn342122633db1",
     "0a3Rv2Zi3s2t1u1y0v90xd210zl1x20zmb4bCr4xp91s20xguxh4xfgx68c2ucxodxgjAo21k406022C6xvMc0C3x",
     "0y/u2Ad0z0vNa5z91ZKk319x01yg1Eg03040n440yj1xihqhd0x67pcxc3xfdx40y3dc081xd2xi012215110x945",
     "1Dc711PVg0T1fgfHe1Ot0D20Al4xQ621153x8240B51Nt3y14Ft1yf3y6axh3zq2xlex9021a3xda70xt2x4dg1xc",
     "0c2xgd8311ysb6020Atbl3xn116212290a12634y381020131410e1yihn0yhjDb628r1yigzacz5eE0eDl511231",
     "011Ad62630s9x8613809axefIl717yil1dzq530111610y241114Gr39110xg634n0BD506eHC8hyK04xr6xwo01x",
     "m73yh0b1PBb1AP1xd2mMu4358726u3Ak2xZrxm4xh80e0m41exGg61g261114z40B06Hn0xt3Ls3Du1T06zd6yRg4",
     "Uzx0yvA0Df"]⟩,
  ⟨["ex", "extendnumlet"],
    ["yv0D+f0f1j0xTKu1o2Df0"]⟩,
  ⟨["fo", "format"],
    ["Bd0xHe0ALh0x/v1q4xh419xTQf0Dp2Jxkfxyz03BCf7UHQ60"]⟩,
  ⟨["hl", "hebrewletter"],
    ["xKgq43xZFa0191c1410111119"]⟩,
  ⟨["ka", "katakana"],
    ["Ixh4z513yq13DgfCgxe1ynxPwexnxIyi3161110Ev2xi0e3"]⟩,
  ⟨["lf"],
    ["a0"]⟩,
  ⟨["ml", "midletter"],
    ["xq0zs0Sf0Kn0Ak0CNi0xTLb0y10C40"]⟩,
  ⟨["mn", "midnum"],
    ["xc0e0W20Ma0A21yu0Ib0Cyb0xTKb030xr030Bn0e0"]⟩,
  ⟨["mb", "midnumlet"],
    ["xe0D/91a0xTNd0Bk060"]⟩,
  ⟨["nl", "newline"],
    ["b1zo0DZ21"]⟩,
  ⟨["nu", "numeric"],
    ["xg9xK65yq910zh0i9C69C61yg0A39zm9zm9zm9zm9zm9zm9zm9zm9zm9z09zm9y69Em9y69xW69x69Fc9A0aB5969",
     "Bm9ym9A6969xyK69R69x69C69m9ym9Im9QUm9xI69yA6969Us9yd0f0x29xs9Ag9Em9Gm9zm9Hm9z696jyc9J69z6",
     "9Qm9ym9Dm9y69J69MKm9yF69ym9A69Mm9TXm9ySkxhyG09J69Lm9Dn9Wl9AQm9"]⟩,
  ⟨["ri", "regionalindicator"],
    ["zYL6p"]⟩,
  ⟨["sq", "singlequote"],
    ["x70"]⟩,
  ⟨["wsegspace"],
    ["x00BOv0yHv612yk0zZ00"]⟩,
  ⟨["zwj"],
    ["Ewd0"]⟩]

/-- The characters of each part in sentences. -/
def sentenceParts : List NamedSet := [
  ⟨["at", "aterm"],
    ["xe0D/l0xTNd0Br0"]⟩,
  ⟨["cr"],
    ["d0"]⟩,
  ⟨["cl", "close"],
    ["x2042xh010t010xd0f0zPu3xWt1yHr7p1a1xm1e1Pp3t1xxg57dyf1v9Ijlxv3x01xw2de129o0i7Jb92712xPEu1",
     "Cn1sf21g5B91xh010t0101111xZUi2"]⟩,
  ⟨["ex", "extend"],
    ["U0zfEj6E7xc10111110y8axgkg0z56252113x30uqyraxq890o3181214xb2xr8xan1x0xm21h16a1t2xo0162122",
     "90a1q022xo014412230u130b2xo0171212k1m512xo016212272a1u0xr4321390x84xn016121371b1t2xo01612",
     "1371b1f0c3xn116121390a1t2y60451017i1xt026c7z2028b6y91r0101041xhj115a1x390z4jn342122633db1",
     "0a3Rv2Zi3s2t1u1y0v90xd210zl1x20zmb4bCr4xp91s20xguxh4xfgx68c2ucxodxgjAo21k406022C6xvMc1C2x",
     "0y/u2Ad0z0vNa5z91ZKk319x01yg1Eg03040n440yj1xihqhd0x67pcxc3xfdx40y3dc081xd2xi012215110x945",
     "1Dc711PVg0T1fgfHe1Ot0D20Al4xQ621153x8240B51Nt3y14Ft1yf3y6axh3zq2xlex9021a3xda70xt2x4dg1xc",
     "0c2xgd8311ysb6020Atbl3xn116212290a12634y381020131410e1yihn0yhjDb628r1yigzacz5eE0eDl511231",
     "011Ad62630s9x8613809axefIl717yil1dzq530111610y241114Gr39110xg634n0BD506eHC8hyK04xr6xwo01x",
     "m73yh0b1PBb1AP1xd2mMu4358726u3Ak2xZrxm4xh80e0m41exGg61g261114z40B06Hn0xt3Ls3Du1T06zd6UBSl",
     "yvA0Df"]⟩,
  ⟨["fo", "format"],
    ["Bd0xHe0Di0ADu0x/s021q4xh419xTQf0Dp2Jxkfxyz03BCf7UHQ60"]⟩,
  ⟨["lf"],
    ["a0"]⟩,
  ⟨["lo", "lower"],
    ["z1pxf0a040x4n1710101010101010101010101010101010101010101010101010101011101010101010101110",
     "10101010101010101010101010101010101010101010201012201020314020322020101020111020301021226",
     "02020101010101010101110101010101010101120103010101010101010101010101010101010101010101010",
     "10101010101016202110401010101y41x371u4Ac0103023i0rx21132101010101010101010101014102021xjx",
     "f1010101010101010101010101010101010901010101010101010101010101010101010101010101010101010",
     "20101010101011101010101010101010101010101010101010101010101010101010101010101010101010101",
     "010101010101010101010xgx8yXj0Tr5yA2810zlBvy1010101010101010101010101010101010101010101010",
     "10101010101010101010101010101010101010101010101010101010101010101010101010101010101010101",
     "01010101010101810101010101010101010101010101010101010101010101010101010101010101010101010",
     "10101010101010101010101885a78785a7878d2787878411603211832187a211zp0d0gczd03130r0404021834",
     "0x1f40WbpxW6xf103110101040111730101010101010101010101010101010101010101010101010101010101",
     "01010101010101010101010101010101010101011701040cx51050+Ej01010101010101010101010101010101",
     "0101010101010j010101010101010101010101012A50101010101012101010101010101010101010101010101",
     "01010101010101010101010101019101020101010104010201210101010101010101010505010101010101010",
     "401020301010101010m21012Vlxa1d6yfPW06c4xx9pxCdx7A8x3Ara1e1611K30221x918xE5xiztlyVqvRI0vVI",
     "qpq61hqpq310161aqpqpqpqpqpqpqpqpqrso15qo15qo15qo15qo1510xVk91j65E5xtyBkx1"]⟩,
  ⟨["nu", "numeric"],
    ["xg9xK65yq911zg0i9C69C61yg0A39zm9zm9zm9zm9zm9zm9zm9zm9zm9z09zm9y69Em9y69xW69x69Fc9A0aB5969",
     "Bm9ym9A6969xyK69R69x69C69m9ym9Im9QUm9xI69yA6969Us9yd0f0x29xs9Ag9Em9Gm9zm9Hm9z696jyc9J69z6",
     "9Qm9ym9Dm9y69J69MKm9yF69ym9A69Mm9TXm9ySkxhyG09J69Lm9Dn9Wl9AQm9"]⟩,
  ⟨["le", "oletter"],
    ["Jr043Cg0x466bq010A50L40zmq44xcxax311z210f171a220g01ttyob0ox091405l409030no7a5n15hx9xqxl30",
     "i079ff47212l16103330g0d112e1a085412l16111111v310j2g8121l16111430i0f1n0b7212l16111430u112f",
     "0h015321331101131323bm0xk7121m1f30q22021u047121m191430v111f1h8121x820g05282o55h3n181026xq",
     "xf11c6xq110141n101911902410l3x00xv71x3r4zjxak0g5433031724cc0y1xa2Gb132610132x8132x0132610",
     "132e1xo132y2x5fzhPb2g1p5ya3a7hdiehec12fxjx3040y3yo742x1105y5auxht24bxb4pxmm9xkyi0ytxeh7xm",
     "td1axbqx3x92ax3ixa22x93151130xxq3y7223yZ7xn70gm9616161616161616yg0Kl2p874244yl621yp135xa1",
     "ythvxgfM0CJvy0RQcy3xd2Ec3fa1y20g0x0yfx78z8060z703612131mtxjexhxu53011bramps7xes0g419a41x8",
     "n217km303xh1031242010o22a72c525259616Ahx2tGZ3cm4xgEE4Hd2z9y30191c141011111zbx1Haixv2xlx8b",
     "zk41A6z9xn2u35252522x3b1p1i111e2dx2zqy5xkEbs3xgxfvdt5x5at2x34714zqydz2x78xjysxjcFm9la7p1z",
     "t5201xb11302mam9uy1i11alapy6xn61y00f3121sxas3sx371rrxlalaidhzey8Bnx3x65v0Egx961g2xrsa08lx",
     "ahxekrmcxkxp120dxcx0oqx3t0208x230cxfe3l010x3h1oj1xv610131e197xex67212l16111430i0c4u910201",
     "x510p010xcxki3k2uxfk110Boxex93x4xfk0xrxad0y7qx56BpxbCj72027111nf010yu72x6g010s0ax770l0bxd",
     "j0iy8C7x0v81x4h0xhtzg6111x5l0p5111ve0G7if01c1x1zs0yfYpz6zehC3yOcz0fxxfh5pzYq5O6CRptxT2No7",
     "uhyehtixfg3vk5iJgxcIjya50y2cy0110sB/n8xClx99ET7316111F2f0t220e38IbyE4za5c3879EPg0Llxca6g0",
     "G1tixbL4rD4t20Lf613111e1C4A60xBk31q111020191310106040101012111020101010101110231613131019",
     "1g52141gAG4xFSvx0Axp6Ct2BQ1eDFgfPdyJ2MtxL2AWa5Ayv"]⟩,
  ⟨["sc", "scontinue"],
    ["xc1c1W20Ku0Be1La0Aw9050ywa1z/c0xPMe111s1t12120a0B81c1y80"]⟩,
  ⟨["st", "sterm"],
    ["x10t0xG90Aj2Bk0xb2Dm0xt01031F51xT41Um041U50C61At1xd050Fq1H23B21a121t2Br1y11Zs192zBf2Fi0d0",
     "m1Jd0ZDs0Ee1D3030Hu1ym1yv0Ao1Aj2Ag1Dp0QN6021xv1B90t0y10yTk1xDt4xc3Bt1zl3zv2A1160g1yo111zc",
     "0Fa1zl1Hl15ez91Dp2M5010Dr1yn1J41Rk1ya1OV91A50y11b0N91F80PM60DL80"]⟩,
  ⟨["se", "sep"],
    ["A50DZ21"]⟩,
  ⟨["sp"],
    ["9011j0zv0BKv0yHvax40xf0zZ00"]⟩,
  ⟨["up", "upper"],
    ["y1pz5m16x10101010101010101010101010101010101010101010101010101010201010101010101020101010",
     "10101010101010101010101010101010101010111010311011122311123111101011102011121011307111111",
     "01010101010101020101010101010101021101210101010101010101010101010101010101010101010101010",
     "101010107111201310101010F10103080601210111g18x30223010101010101010101010105020112xixg0101",
     "01010101010101010101010101010901010101010101010101010101010101010101010101010101010111010",
     "10101010201010101010101010101010101010101010101010101010101010101010101010101010101010101",
     "0101010101010102x5yW9x51050SiylyAj0Hm0101010101010101010101010101010101010101010101010101",
     "01010101010101010101010101010101010101010101010101010101010101010101010101010101010101010",
     "10101010901010101010101010101010101010101010101010101010101010101010101010101010101010101",
     "010101010101010109785a78785b010101087o7878784b4b3c4b4E5040322220346010101323a150qfj0VipxV",
     "gxfxg012201010131020821010101010101010101010101010101010101010101010101010101010101010101",
     "0101010101010101010101010101010801040+Gd010101010101010101010101010101010101010101010j010",
     "101010101010101010101010A7010101010101030101010101010101010101010101010101010101010101010",
     "101010101010a010111010101040102010301010101010101010101414101010101010101310113050101010o",
     "0RVbpxC5x7A8x3Asa1e1611xTaxiAtlyVqvRI0vVJ0pqpqpq01120212317qpq1132716r113141036rpqpqpqpqp",
     "qpuox1ox1ox1ox1ox10AFlx1ywep6p6p"]⟩]

end Detour.Unicode
