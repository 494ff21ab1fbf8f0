/-
  Hexadecimal text: numbers in upper or lower case with an optional least
  width, and byte strings as bracketed lists of two-digit bytes.
-/

namespace SceneScript

/-- `text` with `'0'` put in front until it has at least `width` characters. -/
def padZeros (width : Nat) (text : String) : String :=
  String.ofList (List.replicate (width - text.length) '0') ++ text

/-- The digits of `n` in base 16, lower case, no padding. -/
def lowerHex (n : Nat) : String :=
  String.ofList (Nat.toDigits 16 n)

/-- The digits of `n` in base 16, upper case, no padding. -/
def upperHex (n : Nat) : String :=
  String.ofList ((Nat.toDigits 16 n).map Char.toUpper)

/-- A list in brackets, its items separated by a comma and a space. -/
def bracketed (items : List String) : String :=
  "[" ++ String.intercalate ", " items ++ "]"

/-- A byte string as a list of two-digit lower-case bytes, `[0a, ff]`. -/
def byteList (bytes : List UInt8) : String :=
  bracketed (bytes.map (fun b => padZeros 2 (lowerHex b.toNat)))

end SceneScript
