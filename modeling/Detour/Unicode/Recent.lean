import Detour.Unicode.Packed

/-!
# Recent characters

The properties, categories and scripts that a pattern may name are those of version 16.0. Names of
groups and quoted texts know version 17.0 as well; here are the characters that it added, by what
those two ask for.
-/

namespace Detour.Unicode

/-- The new letters, and the marks that count as letters. -/
def recentLetters : CodeSet := .unpack
  ["yAf0+c0zv0xCTh12010s0UGepxHb2xi1zz47O8xbQC4o2oEu4Cw17xE9lz1ziSCdu1l81xQxq5BX2bRE2AC9"]

/-- The new digits and other numbers. -/
def recentNumbers : CodeSet := .unpack ["yDL09QMa2"]

/-- The new characters that are shown as they are: all of them but those that attach to the
character before. -/
def recentVisible : CodeSet := .unpack
  ["yAf0+c0zv0A/40ySk0/xn12010s0Q+hfJt1xm6yXhpxHb288zA803010O8xb49QBmo2oEu4Cw17xE9lz1ziLU72Jtmf",
   "gB+fu1211162491z+o0Au3Gl8Hr3xi030xp040s040Ea0xKVv5BX2bRE2AC9"]

end Detour.Unicode
