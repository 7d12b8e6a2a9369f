import Detour.Unicode.Packed

/-!
# Letter case

Two characters are equal without regard to case when simple case folding sends them to the same
character. The table lists the classes of this equivalence that have more than one member.
-/

namespace Detour.Unicode

/-- The classes of characters that differ in case only, packed: for each class its least member,
counted from the least member of the class before, then the steps to the next members, then a
zero. -/
def packedCaseClasses : List String :=
  ["y1x001x001x001x001x001x001x001x001x001x001x0EBv01x001x001x001x001x001x001x001x0Ec01x001x001",
   "x001x001x001x001x00yrT7x00bx001x001x001x001x001x0Ey601x001x001x001x001x001x001x001x001x001x",
   "001x001x001x001x001x001x001x002x001x001x001x001x001x001x001DJv0x0zp011021021021021021021021",
   "0210210210210210210210210210210210210210210210210410210210310210210210210210210210310210210",
   "2102102102102102102102102102102102102102102102102102102102103102102103C301Ci01102102Ce01102",
   "Cd01Cd01103yf01Ca01Cb01102Cd01Cf01z101Cj01Ch01102B301xFO101Cj01Cl01A201Cm01102102102Cq01102",
   "Cq03102Cq01102Cp01Cp01102102Cr01104103xo051103110311031021021021021021021021031021021021021",
   "0210210210210311031041021021021021021021021021021021021021021021021021021021021041021021021",
   "02102102102102108GNb01103GN801GNv01GNv01103y501y701102102102102102GMv01GMs01GMu0axFGf05xFGb",
   "03xFH701xFF801xFG404xFG401GLn01xFG105GLt0cGL705xFG305xFFa0mxFEl01xFEi0B7ykx0Dw50xb102104105",
   "A201A201A202zk07x602x501x501x502y002xv01xv01Dy301x001x0u01x001x001x0y001x001x001x0px302x0xm",
   "01x002x001x001x001x0m01x0xg02v101x001x001x0f01x001x001x0DGt01x001x005Dxj0v80910210210210210",
   "2102102102102102102104705103106yg01yg01yg01yg01yg01yg01yg01yg01yg01yg01yg01yg01yg01yg01yg01",
   "yg01x001x001x0Cye01x001x0Cyd01x001x001x001x001x001x001x001x001x001x0Cy401x001x001x0Cy201x0C",
   "y2101x001x001x001x001x001x001x001x0Cxs01x001x001x001x001x00xh1021Cx402102102102102102102102",
   "10210210210210210210210a1021021021021021021021021021021021021021021021021021021021021021021",
   "02102102102102f0110210210210210210210310210210210210210210210210210210210210210210210210210",
   "2102102102102102102102102102102102102102102102102102102102102102102102102102102102102102103",
   "xg01xg01xg01xg01xg01xg01xg01xg01xg01xg01xg01xg01xg01xg01xg01xg01xg01xg01xg01xg01xg01xg01xg0",
   "1xg01xg01xg01xg01xg01xg01xg01xg01xg01xg01xg01xg01xg01xg01xg0yWaDz001Dz001Dz001Dz001Dz001Dz0",
   "01Dz001Dz001Dz001Dz001Dz001Dz001Dz001Dz001Dz001Dz001Dz001Dz001Dz001Dz001Dz001Dz001Dz001Dz00",
   "1Dz001Dz001Dz001Dz001Dz001Dz001Dz001Dz001Dz001Dz001Dz001Dz001Dz001Dz002Dz006Dz003y+001y+001",
   "y+001y+001y+001y+001y+001y+001y+001y+001y+001y+001y+001y+001y+001y+001y+001y+001y+001y+001y",
   "+001y+001y+001y+001y+001y+001y+001y+001y+001y+001y+001y+001y+001y+001y+001y+001y+001y+001y+",
   "001y+001y+001y+001y+003y+001y+001y+00R1xB+g01xB+g01xB+g01xB+g01xB+g01xB+g01xB+g01xB+g01xB+g",
   "01xB+g01xB+g01xB+g01xB+g01xB+g01xB+g01xB+g01xB+g01xB+g01xB+g01xB+g01xB+g01xB+g01xB+g01xB+g0",
   "1xB+g01xB+g01xB+g01xB+g01xB+g01xB+g01xB+g01xB+g01xB+g01xB+g01xB+g01xB+g01xB+g01xB+g01xB+g01",
   "xB+g01xB+g01xB+g01xB+g01xB+g01xB+g01xB+g01xB+g01xB+g01xB+g01xB+g01xB+g01xB+g01xB+g01xB+g01x",
   "B+g01xB+g01xB+g01xB+g01xB+g01xB+g01xB+g01xB+g01xB+g01xB+g01xB+g01xB+g01xB+g01xB+g01xB+g01xB",
   "+g01xB+g01xB+g01xB+g01xB+g01xB+g01xB+g01xB+g01xB+g01xB+g01xB+g0180180180180180180yAjxyK2101",
   "10DgxyM404zT60hxyNo0zi102102102102102102102102102102102102102102102102102102102102102102102",
   "1021021021021021021021021021021021021021021021021021021021021021021021021021xq0210210210210",
   "210210210210210210210210210210210210210210210210210210210210210210c102102102102102102102102",
   "1021021021021021021021021021021021021021021021021021021021021021021021021021021021021021021",
   "0210210210210210210210210210280180180180180180180180980180180180180180b80180180180180180180",
   "180980180180180180180180180980180180180180180c802802802809801801801801801801801809ya01ya01y",
   "m01ym01ym01ym01z401z401A001A001zg01zg01zu01zu0380180180180180180180180980180180180180180180",
   "180980180180180180180180180980180290g90d80180f80180470e90Fvs0xeg01g01g01g01g01g01g01g01g01g",
   "01g01g01g01g01g01g0k10Vjq01q01q01q01q01q01q01q01q01q01q01q01q01q01q01q01q01q01q01q01q01q01q",
   "01q01q01q0xVhxg01xg01xg01xg01xg01xg01xg01xg01xg01xg01xg01xg01xg01xg01xg01xg01xg01xg01xg01xg",
   "01xg01xg01xg01xg01xg01xg01xg01xg01xg01xg01xg01xg01xg01xg01xg01xg01xg01xg01xg01xg01xg01xg01x",
   "g01xg01xg01xg01xg01xg0xh10710210210710310b1021021021021021021021021021021021021021021021021",
   "0210210210210210210210210210210210210210210210210210210210210210210210210210210210210210210",
   "210210210910210510+Ge10210210210210410210210210210210210210210210210210210210210210210k1021",
   "0210210210210210210210210210210210210A81021021021021021021041021021021021021021021021021021",
   "0210210210210210210210210210210210210210210210210210210210210b10210310210210210210510510210",
   "2xg0210210210210210210210210210210bZ00110210210210210210210210510210310410610210210r10QUg10",
   "xwsx001x001x001x001x001x001x001x001x001x001x001x001x001x001x001x001x001x001x001x001x001x001",
   "x001x001x001x00xC6x801x801x801x801x801x801x801x801x801x801x801x801x801x801x801x801x801x801x",
   "801x801x801x801x801x801x801x801x801x801x801x801x801x801x801x801x801x801x801x801x801x80A9x80",
   "1x801x801x801x801x801x801x801x801x801x801x801x801x801x801x801x801x801x801x801x801x801x801x8",
   "01x801x801x801x801x801x801x801x801x801x801x801x80Atx701x701x701x701x701x701x701x701x701x701",
   "x702x701x701x701x701x701x701x701x701x701x701x701x701x701x701x702x701x701x701x701x701x701x70",
   "2x701x70xTby001y001y001y001y001y001y001y001y001y001y001y001y001y001y001y001y001y001y001y001",
   "y001y001y001y001y001y001y001y001y001y001y001y001y001y001y001y001y001y001y001y001y001y001y00",
   "1y001y001y001y001y001y001y001y00Aux001x001x001x001x001x001x001x001x001x001x001x001x001x001x",
   "001x001x001x001x001x001x001x00yVrx001x001x001x001x001x001x001x001x001x001x001x001x001x001x0",
   "01x001x001x001x001x001x001x001x001x001x001x001x001x001x001x001x001x00RI1x001x001x001x001x00",
   "1x001x001x001x001x001x001x001x001x001x001x001x001x001x001x001x001x001x001x001x001x001x001x0",
   "01x001x001x001x00+R1x201x201x201x201x201x201x201x201x201x201x201x201x201x201x201x201x201x20",
   "1x201x201x201x201x201x201x201x201x201x201x201x201x201x201x201x20"]

/-- Reads the rest of one class, `last` being the member before, and then the classes after it. -/
def readCaseClasses (least last : Nat) (members : List Nat) : List Nat → List (List Nat)
  | [] => []
  | step :: rest =>
    if members.isEmpty then readCaseClasses (least + step) (least + step) [least + step] rest
    else if step = 0 then members.reverse :: readCaseClasses least least [] rest
    else readCaseClasses least (last + step) ((last + step) :: members) rest

/-- The classes of characters that differ in case only. -/
def caseClasses : List (List Nat) :=
  readCaseClasses 0 0 [] (packedNumbers 0 (packedCaseClasses.flatMap String.toList))

/-- The set together with every character that differs from a member in case only. -/
def caseClosure (s : CodeSet) : CodeSet :=
  s.union (.ofCodes (caseClasses.flatMap fun c => if c.any s.contains then c else []))

end Detour.Unicode
