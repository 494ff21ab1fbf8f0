import SceneScript.Bytes.Words
import SceneScript.Text.Decoder

/-
  Reading a byte string from a position. A `Parser` threads a `Reader` (the
  bytes and the position in them) through a traced computation. Every read is
  all or nothing: a read that leaves the bytes is a fault that names the
  position and the length asked for, and the reader it was given is still the
  one to go on with. Positions and lengths are plain numbers, so no sum of
  them can wrap.
-/

namespace SceneScript

/-- A byte string and a position in it. -/
structure Reader where
  bytes : Array UInt8
  pos : Nat
  deriving DecidableEq, Repr

namespace Reader

def ofBytes (bytes : List UInt8) : Reader := ⟨bytes.toArray, 0⟩

/-- The `n` bytes from the position on, fewer if there are not so many. -/
def peek (r : Reader) (n : Nat) : List UInt8 :=
  (r.bytes.extract r.pos (r.pos + n)).toList

def remaining (r : Reader) : Nat := r.bytes.size - r.pos

def atEnd (r : Reader) : Bool := decide (r.bytes.size ≤ r.pos)

/-- The fault of asking for `len` bytes at `offset`. -/
def outOfBounds (r : Reader) (offset len : Nat) : Fault :=
  .outOfBounds offset len r.bytes.size

theorem peek_eq (r : Reader) (n : Nat) :
    r.peek n = (r.bytes.toList.drop r.pos).take n := by
  simp [peek, List.extract]

end Reader

/-- A computation that reads from a byte string. -/
abbrev Parser (α : Type) := StateT Reader Traced α

namespace Parser

variable {α : Type}

def fail (f : Fault) : Parser α := fun _ => Traced.fail f

/-- Run a parser from the start of `bytes` and keep its result. -/
def runOn (p : Parser α) (bytes : List UInt8) : Traced α :=
  (fun result => result.1) <$> p (Reader.ofBytes bytes)

/-- Run a parser and come back to the position before it. -/
def aside (p : Parser α) : Parser α := fun r =>
  (fun result => (result.1, r)) <$> p r

/-- Move to the position `target`, at most the end. -/
def seek (target : Nat) : Parser Unit := fun r =>
  if target ≤ r.bytes.size then pure ((), { r with pos := target })
  else Traced.fail (r.outOfBounds target 0)

def take (n : Nat) : Parser (List UInt8) := fun r =>
  if r.pos + n ≤ r.bytes.size then pure (r.peek n, { r with pos := r.pos + n })
  else Traced.fail (r.outOfBounds r.pos n)

def skip (n : Nat) : Parser Unit := do
  let _ ← take n

def byte : Parser UInt8 := do
  return UInt8.ofNat (leNat (← take 1))

def word16 : Parser UInt16 := do
  return leWord16 (← take 2)

def word32 : Parser UInt32 := do
  return leWord32 (← take 4)

/-- The next eight bytes as an unsigned word; doubles are kept as their bits. -/
def word64 : Parser UInt64 := do
  return leWord64 (← take 8)

def int16 : Parser Int16 := do
  return (← word16).toInt16

def int32 : Parser Int32 := do
  return (← word32).toInt32

def int64 : Parser Int64 := do
  return (← word64).toInt64

def text (d : TextDecoder) (n : Nat) : Parser String := do
  d.read (← take n)

/-- Text up to a zero byte, which is consumed and is not part of the text. -/
def terminated (d : TextDecoder) : Parser String := do
  let r ← get
  let len := ((r.peek r.remaining).takeWhile (· ≠ 0)).length
  if len < r.remaining then
    let t ← text d len
    skip 1
    return t
  else fail (r.outOfBounds r.pos (r.remaining + 1))

/-- Run `p` exactly `n` times, one after the other. -/
def times : Nat → Parser α → Parser (List α)
  | 0, _ => pure []
  | n + 1, p => do
    let x ← p
    let xs ← times n p
    return x :: xs

/-- The four magic bytes of `resource`. -/
def magic (resource : Resource) : Parser Unit := do
  let found ← take 4
  if found = resource.magicBytes then pure ()
  else fail (.invalidMagic resource found)

end Parser

end SceneScript
