import SceneScript.Text.Gb18030.Rows
import SceneScript.Text.Gb18030.Runs
import SceneScript.Text.Grid
import SceneScript.Text.Scanned

/-
  GB 18030, which contains GBK. ASCII stands for itself and 0x80 for the euro
  sign; a byte from 0x81 to 0xFE starts a pair, or a form of four bytes when a
  digit follows. The four-byte forms are numbered in order.
-/

namespace SceneScript.Text.Gb18030

def grid : Grid := Grid.ofTexts rowTexts

/-- The number of the first four-byte form beyond the basic plane. -/
def supplementaryStart : Nat := 189000

/-- The four-byte form that changed places with the pair of U+1E3F. -/
def exchangedForm : Nat := 7457

/-- The private use character of `exchangedForm`. -/
def exchangedChar : Nat := 0xE7C7

/-- The private use characters that lost their pair to another character and
are still written with it. -/
def formerPairs : List (Nat × (UInt8 × UInt8)) := [
  (0xE78D, (0xA6, 0xD9)), (0xE78E, (0xA6, 0xDA)), (0xE78F, (0xA6, 0xDB)),
  (0xE790, (0xA6, 0xDC)), (0xE791, (0xA6, 0xDD)), (0xE792, (0xA6, 0xDE)),
  (0xE793, (0xA6, 0xDF)), (0xE794, (0xA6, 0xEC)), (0xE795, (0xA6, 0xED)),
  (0xE796, (0xA6, 0xF3)), (0xE81E, (0xFE, 0x59)), (0xE826, (0xFE, 0x61)),
  (0xE82B, (0xFE, 0x66)), (0xE82C, (0xFE, 0x67)), (0xE832, (0xFE, 0x6D)),
  (0xE843, (0xFE, 0x7E)), (0xE854, (0xFE, 0x90)), (0xE864, (0xFE, 0xA0))]

/-- The character of a four-byte form, by number. -/
def formChar? (number : Nat) : Option Char :=
  if number = exchangedForm then Text.char? exchangedChar
  else if number < 39420 then
    match (runs.takeWhile (fun run => decide (run.1 ≤ number))).getLast? with
    | some run => Text.char? (run.2 + (number - run.1))
    | none => none
  else if supplementaryStart ≤ number then
    Text.char? (0x10000 + (number - supplementaryStart))
  else none

/-- The number of the four-byte form of a character that has no pair. -/
def formNumber? (c : Char) : Option Nat :=
  if c.toNat = exchangedChar then some exchangedForm
  else if 0x10000 ≤ c.toNat then some (supplementaryStart + (c.toNat - 0x10000))
  else
    match (runs.takeWhile (fun run => decide (run.2 ≤ c.toNat))).getLast? with
    | some run => some (run.1 + (c.toNat - run.2))
    | none => none

def formNumber (b₁ b₂ b₃ b₄ : UInt8) : Nat :=
  ((b₁.toNat - 0x81) * 10 + (b₂.toNat - 0x30)) * 1260 +
    (b₃.toNat - 0x81) * 10 + (b₄.toNat - 0x30)

def formBytes (number : Nat) : List UInt8 :=
  [UInt8.ofNat (0x81 + number / 12600), UInt8.ofNat (0x30 + number / 1260 % 10),
    UInt8.ofNat (0x81 + number / 10 % 126), UInt8.ofNat (0x30 + number % 10)]

/-- Whether a byte starts a pair or a four-byte form. -/
def isLead (b : UInt8) : Bool := 0x81 ≤ b && b ≤ 0xFE

def isDigit (b : UInt8) : Bool := 0x30 ≤ b && b ≤ 0x39

/-- The character of a byte that stands alone. -/
def single? (b : UInt8) : Option Char :=
  if b < 0x80 then Text.char? b.toNat
  else if b = 0x80 then some '\u20ac'
  else none

/-- Read a byte string. When a form breaks off, only its first byte is
malformed and the others are read again; of a pair without a meaning only an
ASCII trail byte is. -/
def scan : List UInt8 → Scanned
  | [] => []
  | b₁ :: rest =>
    if isLead b₁ then
      match rest with
      | [] => [none]
      | b₂ :: rest₂ =>
        if isDigit b₂ then
          match rest₂ with
          | [] => [none]
          | b₃ :: rest₃ =>
            if isLead b₃ then
              match rest₃ with
              | [] => [none]
              | b₄ :: rest₄ =>
                if isDigit b₄ then formChar? (formNumber b₁ b₂ b₃ b₄) :: scan rest₄
                else none :: scan (b₂ :: b₃ :: b₄ :: rest₄)
            else none :: scan (b₂ :: b₃ :: rest₃)
        else
          match grid.char? b₁ b₂ with
          | some c => some c :: scan rest₂
          | none => none :: (if b₂ < 0x80 then scan (b₂ :: rest₂) else scan rest₂)
    else single? b₁ :: scan rest

/-- The bytes of a character: one for ASCII, a pair if there is one, four
otherwise. The private use character U+E5E5 has none. -/
def encodeChar? (c : Char) : Option (List UInt8) :=
  if c.toNat < 0x80 then some [UInt8.ofNat c.toNat]
  else if c.toNat = 0xE5E5 then none
  else if 0x10000 ≤ c.toNat then (formNumber? c).map formBytes
  else
    match grid.pair? c with
    | some p => some [p.1, p.2]
    | none =>
      match formerPairs.lookup c.toNat with
      | some p => some [p.1, p.2]
      | none => (formNumber? c).map formBytes

end SceneScript.Text.Gb18030
