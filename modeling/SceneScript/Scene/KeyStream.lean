import SceneScript.Bytes.Buffer
import SceneScript.Fault

/-
  The mask as a stream. The four bytes of the key stand twice in a pattern of
  eight, and the stream goes round the pattern byte by byte. Of what it has
  covered so far it keeps its place in the pattern only, so that one stream
  may be applied to any number of byte strings and regions, also after a
  region that was refused.
-/

namespace SceneScript

/-- A key, its pattern and the place in the pattern to go on from. -/
structure KeyStream where
  key : UInt32
  pattern : Vector UInt8 8
  phase : Fin 8
  deriving DecidableEq

namespace KeyStream

def ofKey (key : UInt32) : KeyStream :=
  let k₀ := key.toUInt8
  let k₁ := (key >>> 8).toUInt8
  let k₂ := (key >>> 16).toUInt8
  let k₃ := (key >>> 24).toUInt8
  ⟨key, #v[k₀, k₁, k₂, k₃, k₀, k₁, k₂, k₃], 0⟩

/-- Combine bytes with the stream, one after the other. -/
def apply : KeyStream → List UInt8 → List UInt8 × KeyStream
  | s, [] => ([], s)
  | s, b :: rest =>
    let done := apply { s with phase := s.phase + 1 } rest
    ((b ^^^ s.pattern.get s.phase) :: done.1, done.2)

/-- Bytes and a stream after one step, and how that went. -/
structure Stepped where
  bytes : List UInt8
  outcome : Except Fault Unit
  stream : KeyStream

/-- Combine the `len` bytes of a buffer from `offset` on with the stream. -/
def applyRegion (s : KeyStream) (b : Buffer) (offset len : UInt64) : Stepped :=
  match b.stretchEnd? offset len with
  | some stop =>
    let done := s.apply (b.slice offset stop)
    ⟨b.bytes.take offset.toNat ++ done.1 ++ b.bytes.drop stop.toNat, .ok (), done.2⟩
  | none => ⟨b.bytes, .error (.badKey s.key offset.toNat len.toNat b.bytes.length), s⟩

/-- What a stream may be applied to. -/
inductive Step where
  | all (bytes : List UInt8)
  | region (buffer : Buffer) (offset len : UInt64)
  deriving DecidableEq, Repr

def Step.perform (s : KeyStream) : Step → Stepped
  | .all bytes =>
    let done := s.apply bytes
    ⟨done.1, .ok (), done.2⟩
  | .region b offset len => s.applyRegion b offset len

/-- One step of a run: the stream before it, and what the step has come to. -/
structure Entry where
  before : KeyStream
  step : Step
  done : Stepped

/-- Apply one stream to one step after the other, refused ones included. -/
def run : KeyStream → List Step → List Entry
  | _, [] => []
  | s, step :: rest => ⟨s, step, step.perform s⟩ :: run (step.perform s).stream rest

end KeyStream

end SceneScript
