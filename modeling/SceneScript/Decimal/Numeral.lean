/-
  Decimal numerals: the number that a list of digits spells.
-/

namespace SceneScript.Decimal

def digitValue (c : Char) : Nat := c.toNat - '0'.toNat

/-- The number that decimal digits spell, the most significant first. -/
def value (digits : List Char) : Nat :=
  digits.foldl (fun n c => n * 10 + digitValue c) 0

/-- Whether a text is a numeral: digits only, and one at least. -/
def isNumeral (text : List Char) : Bool := text ≠ [] && text.all Char.isDigit

end SceneScript.Decimal
