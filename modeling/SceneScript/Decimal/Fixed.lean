import SceneScript.Hex

/-
  Doubles in positional notation with a fixed number of decimals. A double is
  its 64 bits: a sign, and either infinity, not-a-number or an exact multiple
  `m · 2^e`. The decimals are those of the exact value, rounded to the nearest
  and, between two that are equally near, to the even one.
-/

namespace SceneScript.Decimal

/-- The nearest natural number to `num / den`, an exact half going to the even
neighbour. -/
def roundHalfEven (num den : Nat) : Nat :=
  let q := num / den
  let r := num % den
  if 2 * r < den then q
  else if den < 2 * r then q + 1
  else if q % 2 = 0 then q else q + 1

/-- `m · 2^e · 10^places` to the nearest natural number, where `e` is
`up - down`. -/
def scaled (places m up down : Nat) : Nat :=
  roundHalfEven (m * Nat.pow 2 up * Nat.pow 10 places) (Nat.pow 2 down)

/-- A number of `10^-places` units in positional notation. -/
def positional (places units : Nat) : String :=
  toString (units / Nat.pow 10 places) ++ "." ++
    padZeros places (toString (units % Nat.pow 10 places))

/-- The significand of a double: the fraction bits, with the leading one when
the number is normal. -/
def significand (bits : UInt64) : Nat :=
  let fraction := bits.toNat % Nat.pow 2 52
  if bits.toNat / Nat.pow 2 52 % Nat.pow 2 11 = 0 then fraction else Nat.pow 2 52 + fraction

/-- The biased exponent of a double, one at least: the value of a finite
double is its significand times two to this number less 1075. -/
def biasedExponent (bits : UInt64) : Nat :=
  max 1 (bits.toNat / Nat.pow 2 52 % Nat.pow 2 11)

/-- A double with `places` decimals. Zero keeps its sign, and so does what is
rounded to zero; not-a-number has none. -/
def fixed (places : Nat) (bits : UInt64) : String :=
  let sign := if bits.toNat / Nat.pow 2 63 = 1 then "-" else ""
  if bits.toNat / Nat.pow 2 52 % Nat.pow 2 11 = 2047 then
    if bits.toNat % Nat.pow 2 52 = 0 then sign ++ "inf" else "NaN"
  else
    let e := biasedExponent bits
    sign ++ positional places (scaled places (significand bits) (e - 1075) (1075 - e))

end SceneScript.Decimal
