/-
  Little-endian words: the number a byte string spells, and the fixed-width
  words read from it. Signed words are the two's-complement reading of the
  unsigned word of the same width.
-/

namespace SceneScript

/-- The number whose base-256 digits are `bytes`, least significant first. -/
def leNat : List UInt8 → Nat
  | [] => 0
  | b :: rest => b.toNat + 256 * leNat rest

def leWord16 (bytes : List UInt8) : UInt16 := UInt16.ofNat (leNat bytes)

def leWord32 (bytes : List UInt8) : UInt32 := UInt32.ofNat (leNat bytes)

def leWord64 (bytes : List UInt8) : UInt64 := UInt64.ofNat (leNat bytes)

end SceneScript
