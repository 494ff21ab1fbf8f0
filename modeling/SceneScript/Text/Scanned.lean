import SceneScript.Text.Decoder

/-
  Scanned text: what a byte decoder finds, in order, one item per character or
  malformed sequence. The text of a scan shows the replacement character for
  the latter.
-/

namespace SceneScript.Text

/-- Characters in order; `none` is a malformed sequence. -/
abbrev Scanned := List (Option Char)

/-- The character that stands for a malformed sequence. -/
def replacement : Char := '\ufffd'

/-- The text of a scan. -/
def Scanned.decoded (items : Scanned) : Decoded :=
  ⟨String.ofList (items.map (·.getD replacement)), items.any (·.isNone)⟩

/-- The character with a given number, if there is one. -/
def char? (n : Nat) : Option Char :=
  if n.isValidChar then some (Char.ofNat n) else none

end SceneScript.Text
