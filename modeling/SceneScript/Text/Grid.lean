/-
  Double-byte tables: rows of characters by lead byte, and the trail bytes of
  the columns. Column 0 has the trail byte 0x40; the byte 0x7F is left out.
-/

namespace SceneScript.Text

/-- Rows of characters, each with its lead byte. The replacement character
stands where a pair has no meaning. -/
abbrev Grid := List (UInt8 × List Char)

namespace Grid

def ofTexts (rows : List (UInt8 × String)) : Grid :=
  rows.map (fun row => (row.1, row.2.toList))

def column? (trail : UInt8) : Option Nat :=
  if 0x40 ≤ trail ∧ trail ≤ 0x7E then some (trail.toNat - 0x40)
  else if 0x80 ≤ trail then some (trail.toNat - 0x41)
  else none

/-- The trail byte of a column. -/
def trailByte (column : Nat) : UInt8 :=
  if column < 63 then UInt8.ofNat (0x40 + column) else UInt8.ofNat (0x41 + column)

def char? (g : Grid) (lead trail : UInt8) : Option Char := do
  let row ← g.lookup lead
  let c ← row[← column? trail]?
  if c = '\ufffd' then none else some c

/-- The first pair of bytes of a character, by lead and then by trail byte. -/
def pair? (g : Grid) (c : Char) : Option (UInt8 × UInt8) :=
  if c = '\ufffd' then none
  else g.findSome? (fun row => (row.2.idxOf? c).map (fun i => (row.1, trailByte i)))

end Grid

end SceneScript.Text
