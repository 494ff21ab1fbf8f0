import SceneScript.Text.Grid
import SceneScript.Text.Scanned
import SceneScript.Text.ShiftJis.Rows

/-
  Shift_JIS. The bytes up to 0x80 stand for themselves, 0xA1 to 0xDF for the
  halfwidth katakana, and 0x81 to 0x9F and 0xE0 to 0xFC start a pair. Pairs
  from 0xF0 to 0xF9 are the private use area from U+E000 on, in order.
-/

namespace SceneScript.Text.ShiftJis

def grid : Grid := Grid.ofTexts rowTexts

/-- The double-byte characters that are written: the block of extended kanji
with the lead bytes from 0xED to 0xEF repeats others and is only read. -/
def writtenGrid : Grid := grid.filter (fun row => decide (row.1 < 0xED ∨ 0xEF < row.1))

def columns : Nat := 188

/-- Whether a byte starts a pair. -/
def isLead (b : UInt8) : Bool :=
  (0x81 ≤ b && b ≤ 0x9F) || (0xE0 ≤ b && b ≤ 0xFC)

def pairChar? (lead trail : UInt8) : Option Char :=
  if 0xF0 ≤ lead ∧ lead ≤ 0xF9 then
    match Grid.column? trail with
    | some i =>
      if i < columns then Text.char? (0xE000 + (lead.toNat - 0xF0) * columns + i) else none
    | none => none
  else grid.char? lead trail

/-- The character of a byte that stands alone. -/
def single? (b : UInt8) : Option Char :=
  if b ≤ 0x80 then Text.char? b.toNat
  else if 0xA1 ≤ b ∧ b ≤ 0xDF then Text.char? (0xFF61 + (b.toNat - 0xA1))
  else none

/-- Read a byte string. The trail byte of a pair without a meaning is read
again if it is ASCII. -/
def scan : List UInt8 → Scanned
  | [] => []
  | b :: rest =>
    if isLead b then
      match rest with
      | [] => [none]
      | t :: rest' =>
        match pairChar? b t with
        | some c => some c :: scan rest'
        | none => none :: (if t < 0x80 then scan (t :: rest') else scan rest')
    else single? b :: scan rest

/-- The bytes of a character. The yen sign and the overline are written as the
backslash and the tilde they take the place of, the minus sign as its
fullwidth form. -/
def encodeChar? (c : Char) : Option (List UInt8) :=
  if c.toNat ≤ 0x80 then some [UInt8.ofNat c.toNat]
  else if c.toNat = 0xA5 then some [0x5C]
  else if c.toNat = 0x203E then some [0x7E]
  else if 0xFF61 ≤ c.toNat ∧ c.toNat ≤ 0xFF9F then
    some [UInt8.ofNat (c.toNat - 0xFF61 + 0xA1)]
  else
    let c := if c.toNat = 0x2212 then '\uff0d' else c
    (writtenGrid.pair? c).map (fun p => [p.1, p.2])

end SceneScript.Text.ShiftJis
