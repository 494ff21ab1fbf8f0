import SceneScript.Bytes.Buffer
import SceneScript.Bytes.Parser

/-
  A reader that is moved in place. A cursor is one buffer and one position in
  it, a machine word, and its operations go on from wherever the last one has
  left it, also when that one failed. An operation of several steps fails with
  the cursor where the steps before have brought it, so that a failure leaves
  nothing behind is a property of each operation and not of the way they are
  run.
-/

namespace SceneScript

/-- A buffer and the position of the next byte to read. -/
structure Cursor where
  buffer : Buffer
  pos : UInt64
  deriving DecidableEq, Repr

namespace Cursor

def ofBuffer (b : Buffer) : Cursor := ⟨b, 0⟩

/-- The same bytes and position as a reader. -/
def reader (c : Cursor) : Reader := ⟨c.buffer.bytes.toArray, c.pos.toNat⟩

end Cursor

/-- The formats of numbers. A floating-point number is read as its bits. -/
inductive NumberFormat where
  | byte
  | word16
  | int16
  | word32
  | int32
  | int64
  | float32
  | float64
  deriving DecidableEq, Repr

namespace NumberFormat

/-- How many bytes a number takes. -/
def width : NumberFormat → Nat
  | .byte => 1
  | .word16 | .int16 => 2
  | .word32 | .int32 | .float32 => 4
  | .int64 | .float64 => 8

def signed : NumberFormat → Bool
  | .int16 | .int32 | .int64 => true
  | _ => false

/-- How many numbers a format has. -/
def count (k : NumberFormat) : Nat := Nat.pow 256 k.width

/-- The number that bytes spell, the least significant first; a signed one is
negative from the middle of the range on. -/
def value (k : NumberFormat) (bytes : List UInt8) : Int :=
  if k.signed ∧ k.count ≤ 2 * leNat bytes then (leNat bytes : Int) - k.count
  else leNat bytes

end NumberFormat

/-- A computation that moves a cursor. When it fails, the cursor stays where
the steps before have brought it. -/
def InPlace (α : Type) := Cursor → Traced α × Cursor

namespace InPlace

variable {α β : Type}

/-- Run `x`, then `f` on its result, on the same cursor. -/
def andThen (x : InPlace α) (f : α → InPlace β) : InPlace β := fun c =>
  let first := x c
  match first.1.outcome with
  | .ok a =>
    let second := f a first.2
    (⟨first.1.events ++ second.1.events, second.1.outcome⟩, second.2)
  | .error e => (⟨first.1.events, .error e⟩, first.2)

instance : Monad InPlace where
  pure a := fun c => (pure a, c)
  bind := andThen

/-- Look at the cursor. -/
def cursor : InPlace Cursor := fun c => (pure c, c)

def moveTo (pos : UInt64) : InPlace Unit := fun c => (pure (), { c with pos := pos })

/-- A computation that leaves the cursor alone. -/
def still (t : Traced α) : InPlace α := fun c => (t, c)

/-- Ask in vain for `len` bytes at `offset`. -/
def outOfBounds (offset len : Nat) : InPlace α := fun c =>
  (Traced.fail (c.reader.outOfBounds offset len), c)

def seek (target : UInt64) : InPlace Unit := do
  let c ← cursor
  if c.buffer.bytes.length < target.toNat then outOfBounds target.toNat 0
  else moveTo target

def take (n : UInt64) : InPlace (List UInt8) := do
  let c ← cursor
  match c.buffer.stretchEnd? c.pos n with
  | some stop =>
    moveTo stop
    return c.buffer.slice c.pos stop
  | none => outOfBounds c.pos.toNat n.toNat

def skip (n : UInt64) : InPlace Unit := do
  let _ ← take n

def number (k : NumberFormat) : InPlace Int := do
  return k.value (← take (UInt64.ofNat k.width))

def text (d : TextDecoder) (n : UInt64) : InPlace String := do
  still (d.read (← take n))

/-- Text up to a zero byte. The text is read first, and then the cursor goes
one byte further. -/
def terminated (d : TextDecoder) : InPlace String := do
  let c ← cursor
  let rest := c.buffer.bytes.drop c.pos.toNat
  match rest.idxOf? 0 with
  | some len =>
    let t ← text d (UInt64.ofNat len)
    let c ← cursor
    moveTo (c.pos + 1)
    return t
  | none => outOfBounds c.pos.toNat (rest.length + 1)

end InPlace

/-- What an operation returns. -/
inductive Reading where
  | nothing
  | bytes (bytes : List UInt8)
  | number (n : Int)
  | text (t : String)
  deriving DecidableEq, Repr

/-- The operations of a cursor. -/
inductive Operation where
  | seek (target : UInt64)
  | skip (n : UInt64)
  | bytes (n : UInt64)
  | number (format : NumberFormat)
  | text (n : UInt64)
  /-- Text up to a zero byte. -/
  | terminated
  deriving DecidableEq, Repr

namespace Operation

/-- Do an operation, decoding text with `d`. -/
def perform (d : TextDecoder) : Operation → InPlace Reading
  | .seek target => do InPlace.seek target; return .nothing
  | .skip n => do InPlace.skip n; return .nothing
  | .bytes n => return .bytes (← InPlace.take n)
  | .number format => return .number (← InPlace.number format)
  | .text n => return .text (← InPlace.text d n)
  | .terminated => return .text (← InPlace.terminated d)

end Operation

/-- The cursor after some operations, those that failed included. -/
def Cursor.after (c : Cursor) (d : TextDecoder) (operations : List Operation) : Cursor :=
  operations.foldl (fun c op => (op.perform d c).2) c

end SceneScript
