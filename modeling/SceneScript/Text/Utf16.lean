import SceneScript.Text.Scanned

/-
  UTF-16 in either byte order. An unpaired surrogate is malformed and so is an
  odd byte at the end; a high surrogate before the end and the odd byte after
  it are one malformed sequence.
-/

namespace SceneScript.Text.Utf16

/-- The order of the two bytes of a unit. -/
inductive Order where
  | bigEndian
  | littleEndian
  deriving DecidableEq, Repr

/-- The unit of two bytes. -/
def Order.unit : Order → UInt8 → UInt8 → Nat
  | .bigEndian, b₁, b₂ => b₁.toNat * 256 + b₂.toNat
  | .littleEndian, b₁, b₂ => b₁.toNat + b₂.toNat * 256

/-- Whether a unit is the first half of a pair. -/
def isHigh (unit : Nat) : Bool := 0xD800 ≤ unit && unit ≤ 0xDBFF

/-- Whether a unit is the second half of a pair. -/
def isLow (unit : Nat) : Bool := 0xDC00 ≤ unit && unit ≤ 0xDFFF

/-- The character of a pair of surrogates. -/
def pair? (high low : Nat) : Option Char :=
  Text.char? (0x10000 + (high - 0xD800) * 1024 + (low - 0xDC00))

def scan (order : Order) : List UInt8 → Scanned
  | [] => []
  | [_] => [none]
  | b₁ :: b₂ :: rest =>
    if isHigh (order.unit b₁ b₂) then
      match rest with
      | [] => [none]
      | [_] => [none]
      | b₃ :: b₄ :: rest' =>
        if isLow (order.unit b₃ b₄) then
          pair? (order.unit b₁ b₂) (order.unit b₃ b₄) :: scan order rest'
        else none :: scan order (b₃ :: b₄ :: rest')
    else Text.char? (order.unit b₁ b₂) :: scan order rest

end SceneScript.Text.Utf16
