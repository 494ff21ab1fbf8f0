import SceneScript.Proofs.Bytes.MaskEffect
import SceneScript.Scene.Container

/-
  Scene files as data: what a file says (`SceneFile`), its bytes, and the bytes
  under a key. The values stand back to back in the order of the descriptors,
  so the first descriptor points at offset zero, and that is where a reader
  finds the key. A file without descriptors has no place for a key and is left
  plain. Whatever the key, reading gives the scene (`SceneFile.outcome_parse`).
-/

namespace SceneScript

/-- What a scene file says. -/
structure SceneFile where
  version : UInt32
  /-- The instructions, each with the byte that no reader looks at. -/
  instructions : List (Instruction × UInt8)
  attributes : List Attribute
  lineNumbersSize : UInt32
  unused : UInt32
  instructions_fit : 4 * instructions.length < 2 ^ 32
  descriptors_fit : 12 * attributes.length < 2 ^ 32
  values_fit : (attributes.flatMap (·.value)).length < 2 ^ 32

def Instruction.bytes (i : Instruction) (unused : UInt8) : List UInt8 :=
  [i.opcode] ++ ([i.attributeCount] ++ ([i.blockOffset] ++ [unused]))

/-- The bytes of a descriptor whose value stands at `offset`. -/
def Attribute.descriptor (a : Attribute) (offset : Nat) : List UInt8 :=
  leBytes 2 a.id.toNat ++ ([a.typeTag.1, a.typeTag.2] ++
    (leBytes 4 a.value.length ++ leBytes 4 offset))

/-- The descriptors of attributes whose values stand back to back from `offset`
on. -/
def Attribute.descriptors : Nat → List Attribute → List UInt8
  | _, [] => []
  | offset, a :: rest => a.descriptor offset ++ descriptors (offset + a.value.length) rest

namespace SceneFile

/-- The scene a file holds. -/
def scene (f : SceneFile) : Scene := ⟨f.version, f.instructions.map Prod.fst, f.attributes⟩

def values (f : SceneFile) : List UInt8 := f.attributes.flatMap (·.value)

def code (f : SceneFile) : List UInt8 := f.instructions.flatMap (fun i => i.1.bytes i.2)

def descriptors (f : SceneFile) : List UInt8 := Attribute.descriptors 0 f.attributes

def header (f : SceneFile) : List UInt8 :=
  Resource.scene.magicBytes ++ (leBytes 4 f.version.toNat ++ (leBytes 4 f.instructions.length ++
    (leBytes 4 (4 * f.instructions.length) ++ (leBytes 4 (12 * f.attributes.length) ++
      (leBytes 4 f.values.length ++ (leBytes 4 f.lineNumbersSize.toNat ++
        leBytes 4 f.unused.toNat))))))

def bytes (f : SceneFile) : List UInt8 := f.header ++ (f.code ++ (f.descriptors ++ f.values))

/-- The bytes of a scene file under a key. -/
def masked (f : SceneFile) (key : UInt32) : List UInt8 :=
  if f.attributes = [] then f.bytes else (Scene.mask key f.bytes).buffer

/-! ## Sizes and places -/

theorem length_descriptors (offset : Nat) (attributes : List Attribute) :
    (Attribute.descriptors offset attributes).length = 12 * attributes.length := by
  induction attributes generalizing offset with
  | nil => rfl
  | cons a rest ih =>
    rw [Attribute.descriptors, List.length_append, ih]
    simp [Attribute.descriptor]
    omega

theorem length_header (f : SceneFile) : f.header.length = Scene.dataStart := by
  simp [header, Resource.magicBytes, Scene.dataStart]

theorem length_code (f : SceneFile) : f.code.length = 4 * f.instructions.length := by
  unfold code
  induction f.instructions with
  | nil => rfl
  | cons i rest ih =>
    rw [List.flatMap_cons, List.length_append, ih]
    simp [Instruction.bytes]
    omega

theorem length_bytes (f : SceneFile) :
    f.bytes.length = Scene.dataStart + (4 * f.instructions.length + (12 * f.attributes.length +
      f.values.length)) := by
  rw [bytes, List.length_append, List.length_append, List.length_append, length_header,
    length_code, descriptors, length_descriptors]

theorem count_fits (f : SceneFile) : f.instructions.length < 2 ^ 32 := by
  have hfit := f.instructions_fit
  omega

theorem header_standsAt (f : SceneFile) : StandsAt f.header f.bytes 0 :=
  (standsAt_self f.bytes).left

theorem code_standsAt (f : SceneFile) : StandsAt f.code f.bytes Scene.dataStart := by
  have h := (standsAt_self f.bytes).right.left
  rwa [length_header, Nat.zero_add] at h

theorem descriptors_standsAt (f : SceneFile) :
    StandsAt f.descriptors f.bytes (Scene.dataStart + 4 * f.instructions.length) := by
  have h := (standsAt_self f.bytes).right.right.left
  rwa [length_header, length_code, Nat.zero_add] at h

theorem values_standsAt (f : SceneFile) :
    StandsAt f.values f.bytes
      (Scene.dataStart + 4 * f.instructions.length + 12 * f.attributes.length) := by
  have h := (standsAt_self f.bytes).right.right.right
  rwa [length_header, length_code, descriptors, length_descriptors, Nat.zero_add] at h

theorem regionSizes_bytes (f : SceneFile) :
    Scene.regionSizes f.bytes =
      [4 * f.instructions.length, 12 * f.attributes.length, f.values.length] := by
  have hword : ∀ n start, StandsAt (leBytes 4 n) f.bytes start → n < 256 ^ 4 →
      leNat ((f.bytes.drop start).take 4) = n := by
    intro n start hat hn
    have hbytes := hat.take_drop
    rw [length_leBytes] at hbytes
    rw [hbytes, leNat_leBytes_of_lt hn]
  have hsizes := f.header_standsAt.right.right.right
  simp only [Scene.regionSizes, List.map_cons, List.map_nil]
  rw [hword _ Scene.regionSizesAt hsizes.left f.instructions_fit,
    hword _ (Scene.regionSizesAt + 4) hsizes.right.left f.descriptors_fit,
    hword _ (Scene.regionSizesAt + 8) hsizes.right.right.left f.values_fit]

theorem fits_bytes (f : SceneFile) : Scene.Fits f.bytes := by
  unfold Scene.Fits
  rw [regionSizes_bytes, length_bytes]
  simp

/-! ## Reading -/

theorem reads_instruction (i : Instruction) (unused : UInt8) :
    Parser.Reads Scene.readInstruction (i.bytes unused) i :=
  (Parser.reads_byte i.opcode).bind ((Parser.reads_byte i.attributeCount).bind
    ((Parser.reads_byte i.blockOffset).bind ((Parser.reads_skip rfl).map (fun _ => i))))

theorem readsAt_attribute {a : Attribute} {buffer : List UInt8} {start valuesAt offset : Nat}
    (hdescriptor : StandsAt (a.descriptor offset) buffer start)
    (hvalue : StandsAt a.value buffer (valuesAt + offset)) (hoffset : offset < 2 ^ 32)
    (hlen : a.value.length < 2 ^ 32) :
    Parser.ReadsAt (Scene.readAttribute valuesAt) buffer start a (start + 12) := by
  -- The value is fetched aside: the next descriptor is read where this one ends.
  have hfetch : Parser.ReadsAt (do
      Parser.seek (valuesAt + (UInt32.ofNat offset).toNat)
      Parser.take (UInt32.ofNat a.value.length).toNat) buffer (start + 12) a.value
      (valuesAt + offset + a.value.length) := by
    rw [UInt32.toNat_ofNat_of_lt' hoffset, UInt32.toNat_ofNat_of_lt' hlen]
    have hle := hvalue.le
    exact (Parser.ReadsAt.seek (by omega)).bind (Parser.reads_take a.value _ _ hvalue)
  exact (Parser.reads_word16 a.id _ _ hdescriptor.left).bind
    ((Parser.reads_take [a.typeTag.1, a.typeTag.2] _ _ hdescriptor.right.left).bind
      ((Parser.reads_number hlen _ _ hdescriptor.right.right.left).bind
        ((Parser.reads_number hoffset _ _ hdescriptor.right.right.right).bind
          (hfetch.aside.bind (Parser.ReadsAt.pure a)))))

theorem readsAt_attributes {buffer : List UInt8} {valuesAt : Nat} {attributes : List Attribute}
    {start offset : Nat}
    (hdescriptors : StandsAt (Attribute.descriptors offset attributes) buffer start)
    (hvalues : StandsAt (attributes.flatMap (·.value)) buffer (valuesAt + offset))
    (hfit : offset + (attributes.flatMap (·.value)).length < 2 ^ 32) :
    Parser.ReadsAt (Parser.times attributes.length (Scene.readAttribute valuesAt)) buffer start
      attributes (start + 12 * attributes.length) := by
  induction attributes generalizing start offset with
  | nil => exact Parser.ReadsAt.pure []
  | cons a rest ih =>
    rw [List.flatMap_cons, List.length_append] at hfit
    rw [List.flatMap_cons] at hvalues
    rw [Attribute.descriptors] at hdescriptors
    -- `offset` is where the values read so far end, and the next value starts there.
    have hfirst := readsAt_attribute hdescriptors.left hvalues.left (by omega) (by omega)
    have hnext := hvalues.right
    rw [Nat.add_assoc] at hnext
    have hrest := ih hdescriptors.right hnext (by omega)
    have hstop : start + (a.descriptor offset).length + 12 * rest.length =
        start + 12 * (a :: rest).length := by
      simp [Attribute.descriptor]
      omega
    rw [hstop] at hrest
    exact hfirst.bind (hrest.bind (Parser.ReadsAt.pure (a :: rest)))

/-- What the header of a scene file says. -/
def declared (f : SceneFile) : Scene.Header :=
  ⟨f.version, UInt32.ofNat f.instructions.length, UInt32.ofNat (12 * f.attributes.length)⟩

theorem reads_header (f : SceneFile) : Parser.Reads Scene.Header.read f.header f.declared := by
  have hsize : 4 * (UInt32.ofNat f.instructions.length).toNat =
      (UInt32.ofNat (4 * f.instructions.length)).toNat := by
    rw [UInt32.toNat_ofNat_of_lt' f.count_fits, UInt32.toNat_ofNat_of_lt' f.instructions_fit]
  refine (Parser.reads_magic .scene).bind ((Parser.reads_word32 f.version).bind
    ((Parser.reads_number f.count_fits).bind ((Parser.reads_number f.instructions_fit).bind ?_)))
  rw [if_pos hsize]
  exact (Parser.reads_number f.descriptors_fit).bind
    ((Parser.reads_skip (length_leBytes 4 _)).bind ((Parser.reads_skip (length_leBytes 4 _)).bind
      ((Parser.reads_skip (length_leBytes 4 _)).map (fun _ => f.declared))))

theorem descriptorsAt_declared (f : SceneFile) :
    f.declared.descriptorsAt = Scene.dataStart + 4 * f.instructions.length := by
  rw [Scene.Header.descriptorsAt, declared, UInt32.toNat_ofNat_of_lt' f.count_fits]

theorem valuesAt_declared (f : SceneFile) :
    f.declared.valuesAt =
      Scene.dataStart + 4 * f.instructions.length + 12 * f.attributes.length := by
  rw [Scene.Header.valuesAt, descriptorsAt_declared, declared,
    UInt32.toNat_ofNat_of_lt' f.descriptors_fit]

theorem descriptorCount_declared (f : SceneFile) :
    f.declared.descriptorCount = f.attributes.length := by
  rw [Scene.Header.descriptorCount, declared, UInt32.toNat_ofNat_of_lt' f.descriptors_fit]
  omega

/-- The body of a plain file. -/
theorem readsAt_body (f : SceneFile) :
    ∃ stop, Parser.ReadsAt (Scene.readBody f.declared) f.bytes 0 f.scene stop := by
  have hlen := f.length_bytes
  have hattributes : Parser.ReadsAt
      (Parser.times f.declared.descriptorCount (Scene.readAttribute f.declared.valuesAt)) f.bytes
      f.declared.descriptorsAt f.attributes
      (f.declared.descriptorsAt + 12 * f.attributes.length) := by
    rw [descriptorCount_declared, valuesAt_declared, descriptorsAt_declared]
    refine readsAt_attributes f.descriptors_standsAt f.values_standsAt ?_
    rw [Nat.zero_add]
    exact f.values_fit
  have hinstructions : Parser.Reads
      (Parser.times f.declared.count.toNat Scene.readInstruction) f.code
      (f.instructions.map Prod.fst) := by
    rw [declared, UInt32.toNat_ofNat_of_lt' f.count_fits]
    exact Parser.reads_times (fun i _ => reads_instruction i.1 i.2)
  have hseek : f.declared.descriptorsAt ≤ f.bytes.length := by
    rw [descriptorsAt_declared]
    omega
  exact ⟨_, (Parser.ReadsAt.seek hseek).bind (hattributes.bind
    ((Parser.ReadsAt.seek (by omega)).bind
      ((hinstructions _ _ f.code_standsAt).bind (Parser.ReadsAt.pure f.scene))))⟩

/-! ## Reading under a key -/

/-- What reading a file relies on: the header is plain, the key it shows takes
the mask off, and the size is that of the plain file. -/
structure Unmasks (f : SceneFile) (buffer : List UInt8) (key : UInt32) : Prop where
  header : StandsAt f.header buffer 0
  shows : ∃ stop, Parser.ReadsAt f.declared.readKey buffer Scene.dataStart key stop
  plain : (Scene.mask key buffer).buffer = f.bytes
  report : (Scene.mask key buffer).report.outcome = .ok ()
  size : buffer.length = f.bytes.length

theorem unmasks_bytes (f : SceneFile) (h : f.attributes = []) : f.Unmasks f.bytes 0 := by
  have hnone : f.declared.descriptorSize = 0 := by
    rw [declared, h]
    rfl
  have hkey : Parser.ReadsAt f.declared.readKey f.bytes Scene.dataStart 0 Scene.dataStart := by
    unfold Scene.Header.readKey
    rw [if_pos hnone]
    exact Parser.ReadsAt.pure 0
  exact ⟨f.header_standsAt, ⟨_, hkey⟩, rfl, rfl, rfl⟩

/-- The offset of the first value is zero. -/
theorem zero_standsAt (f : SceneFile) (h : f.attributes ≠ []) :
    StandsAt [0, 0, 0, 0] f.bytes (Scene.dataStart + 4 * (f.instructions.length + 2)) := by
  obtain ⟨a, rest, hcons⟩ := List.exists_cons_of_ne_nil h
  have hdescriptors := f.descriptors_standsAt
  rw [descriptors, hcons, Attribute.descriptors] at hdescriptors
  have hoffset := hdescriptors.left.right.right.right
  rwa [Nat.add_assoc, Nat.add_assoc, Nat.add_assoc] at hoffset

theorem unmasks_mask (f : SceneFile) (h : f.attributes ≠ []) (key : UInt32) :
    f.Unmasks (Scene.mask key f.bytes).buffer key := by
  have hpos : 0 < f.attributes.length := List.length_pos_iff.mpr h
  have hfits := f.fits_bytes
  -- The offset of the first value is zero, so the key shows through it.
  have hshown : StandsAt (leBytes 4 key.toNat) (Scene.mask key f.bytes).buffer
      (f.declared.descriptorsAt + 8) := by
    have hplace : f.declared.descriptorsAt + 8 =
        Scene.dataStart + 4 * (f.instructions.length + 2) := by
      rw [descriptorsAt_declared]
      omega
    rw [hplace]
    refine Scene.key_standsAt_mask key hfits (f.zero_standsAt h) ?_
    rw [regionSizes_bytes]
    simp
    omega
  have hsome : f.declared.descriptorSize ≠ 0 := by
    intro hzero
    have hsize := congrArg UInt32.toNat hzero
    rw [declared, UInt32.toNat_ofNat_of_lt' f.descriptors_fit] at hsize
    simp only [UInt32.toNat_zero] at hsize
    omega
  have hkey : Parser.ReadsAt f.declared.readKey (Scene.mask key f.bytes).buffer Scene.dataStart key
      (f.declared.descriptorsAt + 8 + 4) := by
    unfold Scene.Header.readKey
    rw [if_neg hsome]
    have hle := hshown.le
    exact (Parser.ReadsAt.seek (by omega)).bind (Parser.reads_word32 key _ _ hshown)
  refine ⟨?_, ⟨_, hkey⟩, Scene.mask_mask key f.bytes,
    Scene.report_mask key (Scene.fits_mask key hfits), Scene.length_mask key hfits⟩
  -- The header ends before the first masked byte.
  have hheader := f.header_standsAt
  have htake : (Scene.mask key f.bytes).buffer.take f.header.length = f.header := by
    rw [length_header, Scene.take_mask key hfits, ← length_header f]
    exact hheader.take_drop
  exact standsAt_of_take_drop (by rw [Scene.length_mask key hfits]; exact hheader.le) htake

theorem outcome_parse_of_unmasks {f : SceneFile} {buffer : List UInt8} {key : UInt32}
    (h : f.Unmasks buffer key) : (Scene.parse buffer).outcome = .ok f.scene := by
  have hheader := f.reads_header buffer 0 h.header
  rw [length_header, Nat.zero_add] at hheader
  obtain ⟨_, hkey⟩ := h.shows
  obtain ⟨_, hbody⟩ := f.readsAt_body
  have hvalues : f.declared.valuesAt ≤ buffer.length := by
    rw [h.size, length_bytes, valuesAt_declared]
    omega
  unfold Scene.parse
  refine (Traced.outcome_bind_of_ok hheader _).trans ?_
  simp only [hvalues, if_true]
  refine (Traced.outcome_bind_of_ok hkey _).trans ?_
  refine (Traced.outcome_bind_of_ok rfl _).trans ?_
  refine (Traced.outcome_bind_of_ok h.report _).trans ?_
  rw [h.plain]
  exact hbody.runOn

/-- **Any key.** A scene file is read back from its bytes under whatever key. -/
theorem outcome_parse (f : SceneFile) (key : UInt32) :
    (Scene.parse (f.masked key)).outcome = .ok f.scene := by
  unfold masked
  split
  · next h => exact outcome_parse_of_unmasks (f.unmasks_bytes h)
  · next h => exact outcome_parse_of_unmasks (f.unmasks_mask h key)

end SceneFile

end SceneScript
