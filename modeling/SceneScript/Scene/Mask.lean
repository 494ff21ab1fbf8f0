import SceneScript.Bytes.Parser

/-
  The mask over a compiled scene. The bytes of the three data regions are
  combined by exclusive or with the four key bytes, repeated without a break
  from the start of the first region to the end of the last. Masking and
  unmasking are the same operation.
-/

namespace SceneScript

/-- A key and the number of bytes it has been applied to so far. -/
structure Mask where
  key : UInt32
  used : Nat
  deriving DecidableEq, Repr

namespace Mask

def ofKey (key : UInt32) : Mask := ⟨key, 0⟩

/-- Byte `i` of the key repeated forever, least significant byte first. -/
def keyByte (key : UInt32) (i : Nat) : UInt8 :=
  UInt8.ofNat (key.toNat / Nat.pow 256 (i % 4))

/-- Mask `data`, going on where the mask stands. -/
def apply (m : Mask) (data : List UInt8) : List UInt8 × Mask :=
  (data.mapIdx (fun i b => b ^^^ keyByte m.key (m.used + i)),
    { m with used := m.used + data.length })

/-- Mask the `len` bytes of `buffer` from `offset` on. A region that leaves
the buffer is the sign of a wrong key. -/
def applyRegion (m : Mask) (buffer : List UInt8) (offset len : Nat) :
    Except Fault (List UInt8 × Mask) :=
  if offset + len ≤ buffer.length then
    let region := m.apply ((buffer.drop offset).take len)
    .ok (buffer.take offset ++ region.1 ++ buffer.drop (offset + len), region.2)
  else .error (.badKey m.key offset len buffer.length)

end Mask

namespace Scene

/-- The first byte after the header. -/
def dataStart : Nat := 0x20

/-- Where the header keeps the sizes of the three regions. -/
def regionSizesAt : Nat := 0x0C

/-- The three region sizes of a buffer that has them. -/
def regionSizes (buffer : List UInt8) : List Nat :=
  [regionSizesAt, regionSizesAt + 4, regionSizesAt + 8].map
    (fun start => leNat ((buffer.drop start).take 4))

/-- A buffer after masking, and how that went. -/
structure Masked where
  buffer : List UInt8
  report : Traced Unit

/-- Mask regions of the given sizes, one after the other from `offset` on, up
to the first that does not fit. The regions before it stay masked. -/
def maskRegions : List Nat → Nat → Mask → List UInt8 → List UInt8 × Except Fault Unit
  | [], _, _, buffer => (buffer, .ok ())
  | size :: sizes, offset, m, buffer =>
    match m.applyRegion buffer offset size with
    | .ok next => maskRegions sizes (offset + size) next.2 next.1
    | .error f => (buffer, .error f)

/-- Mask the three data regions of a scene. Key zero changes nothing. -/
def mask (key : UInt32) (buffer : List UInt8) : Masked :=
  if key = 0 then ⟨buffer, pure ()⟩
  else if buffer.length < regionSizesAt + 12 then
    ⟨buffer, Traced.fail (.outOfBounds regionSizesAt 12 buffer.length)⟩
  else
    let sizes := regionSizes buffer
    let done := maskRegions sizes dataStart (Mask.ofKey key) buffer
    ⟨done.1, do Traced.report (.unmasking sizes key); Traced.ofExcept done.2⟩

end Scene

end SceneScript
