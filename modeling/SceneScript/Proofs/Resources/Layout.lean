import SceneScript.Proofs.Bytes.RunningOut
import SceneScript.Proofs.Resources.TwoScenes

/-
  Exactly which buffers are scenes. The header of a buffer says where its
  regions are, and the buffer shows a key. If the regions, the key and every
  descriptor with its value lie in the buffer (`Scene.Intact`), it is read as
  the scene that stands in it once the mask is taken off (`Scene.shown`). All
  other buffers are refused: for the magic, for the size of the instructions or
  for the key, whichever is looked at first, and otherwise for want of bytes
  (`Scene.parse_iff_intact`).
-/

namespace SceneScript

namespace Scene

/-! ## What a buffer shows -/

/-- The header in the first bytes of a buffer. -/
def Header.shown (b : List UInt8) : Header :=
  ⟨leWord32 (window b 0x04 4), leWord32 (window b 0x08 4), leWord32 (window b 0x10 4)⟩

/-- Where the values of a buffer should end. -/
def valuesEnd (b : List UInt8) : Nat := (Header.shown b).valuesAt + leNat (window b 0x14 4)

/-- The key a buffer shows. -/
def shownKey (b : List UInt8) : UInt32 := (Header.shown b).shownKey b

/-- A buffer with its three regions unmasked. -/
def plain (b : List UInt8) : List UInt8 := Mask.overlay (shownKey b) 0 dataStart (valuesEnd b) b

/-- The instruction whose four bytes stand at `pos`. -/
def instructionAt (plain : List UInt8) (pos : Nat) : Instruction :=
  ⟨plain.getD pos 0, plain.getD (pos + 1) 0, plain.getD (pos + 2) 0⟩

/-- The length of the value whose descriptor stands at `pos`. -/
def valueSize (plain : List UInt8) (pos : Nat) : Nat := leNat (window plain (pos + 4) 4)

/-- Where that value stands, counted from the first one. -/
def valueOffset (plain : List UInt8) (pos : Nat) : Nat := leNat (window plain (pos + 8) 4)

/-- The attribute whose descriptor stands at `pos`. -/
def attributeAt (plain : List UInt8) (valuesAt pos : Nat) : Attribute :=
  ⟨leWord16 (window plain pos 2), (plain.getD (pos + 2) 0, plain.getD (pos + 3) 0),
    window plain (valuesAt + valueOffset plain pos) (valueSize plain pos)⟩

/-- The scene in a buffer: as many instructions as the header says, and as many
attributes as descriptors begin before the values. -/
def shown (b : List UInt8) : Scene where
  version := (Header.shown b).version
  instructions := (List.range (Header.shown b).count.toNat).map
    (fun i => instructionAt (plain b) (dataStart + 4 * i))
  attributes := (List.range (Header.shown b).descriptorCount).map
    (fun j => attributeAt (plain b) (Header.shown b).valuesAt
      ((Header.shown b).descriptorsAt + 12 * j))

/-- The size of the instructions is not four times their number. -/
structure WrongSize (b : List UInt8) : Prop where
  long : 0x10 ≤ b.length
  magic : b.take 4 = Resource.scene.magicBytes
  other : 4 * (Header.shown b).count.toNat ≠ leNat (window b 0x0C 4)

/-- The header is whole and its sizes agree, and the regions before the values
lie in the buffer, as does the place of the key if there is one. -/
structure Keyed (b : List UInt8) : Prop where
  long : dataStart ≤ b.length
  magic : b.take 4 = Resource.scene.magicBytes
  size : 4 * (Header.shown b).count.toNat = leNat (window b 0x0C 4)
  values : (Header.shown b).valuesAt ≤ b.length
  key : (Header.shown b).descriptorSize ≠ 0 → (Header.shown b).descriptorsAt + 12 ≤ b.length

/-- There is a key, and the values leave the buffer. -/
structure WrongKey (b : List UInt8) : Prop extends Keyed b where
  masked : shownKey b ≠ 0
  outside : b.length < valuesEnd b

/-- Everything the header and the descriptors speak of lies in the buffer. -/
structure Intact (b : List UInt8) : Prop extends Keyed b where
  masked : shownKey b ≠ 0 → valuesEnd b ≤ b.length
  descriptors : ∀ j, j < (Header.shown b).descriptorCount →
    (Header.shown b).descriptorsAt + 12 * j + 12 ≤ b.length
  inside : ∀ j, j < (Header.shown b).descriptorCount →
    (Header.shown b).valuesAt + valueOffset (plain b) ((Header.shown b).descriptorsAt + 12 * j) +
      valueSize (plain b) ((Header.shown b).descriptorsAt + 12 * j) ≤ b.length

variable {b : List UInt8}

theorem size_of_not_wrongSize (hmagic : ¬ WrongMagic .scene b) (hsize : ¬ WrongSize b)
    (hlong : 0x10 ≤ b.length) : 4 * (Header.shown b).count.toNat = leNat (window b 0x0C 4) := by
  by_contra hother
  exact hsize ⟨hlong, take_of_not_wrongMagic hmagic (by omega), hother⟩

theorem length_plain (b : List UInt8) : (plain b).length = b.length :=
  Mask.length_overlay _ _ _ _ _

theorem Keyed.descriptorsAt_le (h : Keyed b) :
    (Header.shown b).descriptorsAt ≤ (plain b).length := by
  have hvalues := h.values
  unfold Header.valuesAt at hvalues
  rw [length_plain]
  omega

/-! ## The header -/

namespace Header

theorem outcome_read_of_wrongMagic (h : WrongMagic .scene b) :
    (read ⟨b.toArray, 0⟩).outcome = .error (.invalidMagic .scene (b.take 4)) :=
  Parser.outcome_bind_of_error (Parser.outcome_magic_of_wrong h) _

theorem outcome_read_of_wrongSize (h : WrongSize b) :
    (read ⟨b.toArray, 0⟩).outcome =
      .error (.sizeMismatch (shown b).count (leWord32 (window b 0x0C 4))) := by
  have hlong := h.long
  have hmagic : ¬ WrongMagic .scene b := fun hwrong => hwrong.other h.magic
  have hother : ¬ 4 * (leWord32 (window b 8 4)).toNat = (leWord32 (window b 12 4)).toNat := by
    rw [toNat_leWord32_window b 12]
    exact h.other
  refine (((Parser.readsIf_magic hmagic).reads (by omega)).outcome_bind _).trans ?_
  refine ((Parser.readsIf_word32.reads (by omega)).outcome_bind _).trans ?_
  refine ((Parser.readsIf_word32.reads (by omega)).outcome_bind _).trans ?_
  refine ((Parser.readsIf_word32.reads (by omega)).outcome_bind _).trans ?_
  rw [if_neg hother]
  rfl

/-- With the right magic and sizes that agree, a header is only ever too short. -/
theorem readsIf_read (hmagic : ¬ WrongMagic .scene b) (hsize : ¬ WrongSize b) :
    Parser.ReadsIf read b 0 (dataStart ≤ b.length) (shown b) dataStart := by
  have hequal : 0x10 ≤ b.length →
      4 * (leWord32 (window b 8 4)).toNat = (leWord32 (window b 12 4)).toNat := by
    intro hlong
    rw [toNat_leWord32_window b 12]
    exact size_of_not_wrongSize hmagic hsize hlong
  have hread : Parser.ReadsIf read b 0 _ (shown b) dataStart :=
    (Parser.readsIf_magic hmagic).bind (fun _ => Parser.readsIf_word32.bind (fun _ =>
      Parser.readsIf_word32.bind (fun _ => Parser.readsIf_word32.bind (fun hlong => by
        rw [if_pos (hequal (by omega))]
        exact Parser.readsIf_word32.bind (fun _ => (Parser.readsIf_skip 4).bind (fun _ =>
          (Parser.readsIf_skip 4).bind (fun _ =>
            (Parser.readsIf_skip 4).map (fun _ => shown b))))))))
  refine hread.congr ?_ (fun _ => rfl)
  unfold dataStart
  omega

theorem readsIf_readKey (h : Header) (pos : Nat) :
    ∃ stop, Parser.ReadsIf h.readKey b pos
      (h.descriptorSize ≠ 0 → h.descriptorsAt + 12 ≤ b.length) (h.shownKey b) stop := by
  unfold readKey shownKey
  by_cases hzero : h.descriptorSize = 0
  · rw [if_pos hzero, if_pos hzero]
    refine ⟨pos, (Parser.ReadsIf.pure 0).congr ?_ (fun _ => rfl)⟩
    simp [hzero]
  · rw [if_neg hzero, if_neg hzero]
    refine ⟨_, ((Parser.readsIf_seek (h.descriptorsAt + 8)).bind
      (fun _ => Parser.readsIf_word32)).congr ?_ (fun _ => rfl)⟩
    simp only [ne_eq, hzero, not_false_eq_true, true_implies]
    omega

end Header

/-! ## The body -/

theorem readsIf_readInstruction (pos : Nat) :
    Parser.ReadsIf readInstruction b pos (pos + 4 ≤ b.length) (instructionAt b pos) (pos + 4) := by
  have hread : Parser.ReadsIf readInstruction b pos _ (instructionAt b pos) (pos + 4) :=
    Parser.readsIf_byte.bind (fun _ => Parser.readsIf_byte.bind (fun _ =>
      Parser.readsIf_byte.bind (fun _ =>
        (Parser.readsIf_skip 1).map (fun _ => instructionAt b pos))))
  refine hread.congr ?_ (fun _ => rfl)
  omega

theorem readsIf_readAttribute (valuesAt pos : Nat) :
    Parser.ReadsIf (readAttribute valuesAt) b pos
      (pos + 12 ≤ b.length ∧ valuesAt + valueOffset b pos + valueSize b pos ≤ b.length)
      (attributeAt b valuesAt pos) (pos + 12) := by
  have hsize := toNat_leWord32_window b (pos + 4)
  have hoffset := toNat_leWord32_window b (pos + 8)
  have hread : Parser.ReadsIf (readAttribute valuesAt) b pos
      (pos + 2 ≤ b.length ∧ pos + 4 ≤ b.length ∧ pos + 8 ≤ b.length ∧ pos + 12 ≤ b.length ∧
        valuesAt + (leWord32 (window b (pos + 8) 4)).toNat ≤ b.length ∧
        valuesAt + (leWord32 (window b (pos + 8) 4)).toNat +
          (leWord32 (window b (pos + 4) 4)).toNat ≤ b.length)
      ⟨leWord16 (window b pos 2),
        ((window b (pos + 2) 2).getD 0 0, (window b (pos + 2) 2).getD 1 0),
        window b (valuesAt + (leWord32 (window b (pos + 8) 4)).toNat)
          (leWord32 (window b (pos + 4) 4)).toNat⟩ (pos + 12) :=
    Parser.readsIf_word16.bind (fun _ => (Parser.readsIf_take 2).bind (fun _ =>
      Parser.readsIf_word32.bind (fun _ => Parser.readsIf_word32.bind (fun _ =>
        ((Parser.readsIf_seek _).bind (fun _ => Parser.readsIf_take _)).aside.map (fun _ => _)))))
  rw [hsize, hoffset, getD_window_eq b (pos + 2) (by omega),
    getD_window_eq b (pos + 2) (by omega)] at hread
  refine hread.congr ?_ (fun _ => rfl)
  unfold valueOffset valueSize
  omega

theorem readsIf_readBody (h : Header) (hstart : h.descriptorsAt ≤ b.length) :
    ∃ stop, Parser.ReadsIf (readBody h) b 0
      (∀ j, j < h.descriptorCount → h.descriptorsAt + 12 * j + 12 ≤ b.length ∧
        h.valuesAt + valueOffset b (h.descriptorsAt + 12 * j) +
          valueSize b (h.descriptorsAt + 12 * j) ≤ b.length)
      ⟨h.version,
        (List.range h.count.toNat).map (fun i => instructionAt b (dataStart + 4 * i)),
        (List.range h.descriptorCount).map
          (fun j => attributeAt b h.valuesAt (h.descriptorsAt + 12 * j))⟩ stop := by
  have hattributes := Parser.readsIf_times (n := h.descriptorCount)
    (fun j _ => readsIf_readAttribute (b := b) h.valuesAt (h.descriptorsAt + 12 * j))
  have hinstructions := Parser.readsIf_times (n := h.count.toNat)
    (fun i _ => readsIf_readInstruction (b := b) (dataStart + 4 * i))
  refine ⟨_, ((Parser.readsIf_seek h.descriptorsAt).bind (fun _ => hattributes.bind (fun _ =>
    (Parser.readsIf_seek dataStart).bind (fun _ => hinstructions.map _)))).congr ?_
      (fun _ => rfl)⟩
  -- The instructions end where the descriptors begin, which is in the buffer.
  unfold Header.descriptorsAt at hstart
  constructor
  · intro hall
    exact hall.2.1
  · intro hrecords
    refine ⟨hstart, hrecords, by omega, ?_⟩
    intro i hi
    omega

/-! ## The whole buffer -/

theorem regionSizes_of_size (h : 4 * (Header.shown b).count.toNat = leNat (window b 0x0C 4)) :
    dataStart + (regionSizes b).sum = valuesEnd b := by
  have hdescriptors : (Header.shown b).descriptorSize.toNat = leNat (window b 0x10 4) :=
    toNat_leWord32_window b 0x10
  rw [sum_regionSizes, valuesEnd, Header.valuesAt, Header.descriptorsAt, hdescriptors, h]
  omega

/-- Once the key is found, reading goes on with the unmasked buffer. -/
theorem outcome_parse_of_keyed (h : Keyed b) :
    (parse b).outcome = (readPlain (Header.shown b) (shownKey b) b).outcome := by
  have hmagic : ¬ WrongMagic .scene b := fun hwrong => hwrong.other h.magic
  have hsize : ¬ WrongSize b := fun hwrong => hwrong.other h.size
  have hheader := (Header.readsIf_read hmagic hsize).reads h.long
  obtain ⟨stop, hkey⟩ := Header.readsIf_readKey (b := b) (Header.shown b) dataStart
  unfold parse
  refine (Traced.outcome_bind_of_ok hheader _).trans ?_
  simp only [h.values, if_true]
  refine (Traced.outcome_bind_of_ok (hkey.reads h.key) _).trans ?_
  exact Traced.outcome_bind_of_ok rfl _

theorem outcome_parse_of_wrongMagic (h : WrongMagic .scene b) :
    (parse b).outcome = .error (.invalidMagic .scene (b.take 4)) :=
  congrArg Traced.outcome (Traced.bind_of_error (Header.outcome_read_of_wrongMagic h) _)

theorem outcome_parse_of_wrongSize (h : WrongSize b) :
    (parse b).outcome =
      .error (.sizeMismatch (Header.shown b).count (leWord32 (window b 0x0C 4))) :=
  congrArg Traced.outcome (Traced.bind_of_error (Header.outcome_read_of_wrongSize h) _)

theorem outcome_parse_of_wrongKey (h : WrongKey b) :
    (parse b).outcome = .error (.badKey (shownKey b) (Header.shown b).valuesAt
      (leNat (window b 0x14 4)) b.length) := by
  have hlong : dataStart ≤ b.length := h.long
  have houtside := h.outside
  have hvalues := h.values
  have hdescriptors : (Header.shown b).descriptorSize.toNat = leNat (window b 0x10 4) :=
    toNat_leWord32_window b 0x10
  -- The first two regions end where the values start, so the third is the one that fails.
  have hstart : dataStart + [leNat (window b 0x0C 4), leNat (window b 0x10 4)].sum =
      (Header.shown b).valuesAt := by
    rw [Header.valuesAt, Header.descriptorsAt, hdescriptors, h.size]
    simp [Nat.add_assoc]
  have hstops : Stops (regionSizes b) dataStart b.length
      [leNat (window b 0x0C 4), leNat (window b 0x10 4)] (leNat (window b 0x14 4)) := by
    refine ⟨⟨[], rfl⟩, .inr ?_, ?_⟩
    · rw [hstart]
      exact hvalues
    · rw [hstart]
      exact houtside
  have hmask := (mask_of_stops h.masked (by unfold dataStart at hlong; unfold regionSizesAt; omega)
    hstops).1
  rw [outcome_parse_of_keyed h.toKeyed, readPlain, Traced.outcome_bind, hmask, hstart]
  rfl

/-- Unmasked, the buffer is read in place. -/
theorem outcome_parse_of_unmasked (h : Keyed b) (hfits : shownKey b ≠ 0 → valuesEnd b ≤ b.length) :
    (parse b).outcome = (Parser.runOn (readBody (Header.shown b)) (plain b)).outcome := by
  have hmask : (mask (shownKey b) b).report.outcome = .ok () ∧
      (mask (shownKey b) b).buffer = plain b := by
    by_cases hkey : shownKey b = 0
    · rw [plain, hkey, Mask.overlay_zero, mask, if_pos rfl]
      exact ⟨rfl, rfl⟩
    · have hregions := regionSizes_of_size h.size
      have hall : Fits b := by
        unfold Fits
        rw [hregions]
        exact hfits hkey
      rw [buffer_mask _ hall, hregions]
      exact ⟨report_mask _ hall, rfl⟩
  rw [outcome_parse_of_keyed h, readPlain, hmask.2]
  exact Traced.outcome_bind_of_ok hmask.1 _

theorem outcome_parse_of_intact (h : Intact b) : (parse b).outcome = .ok (shown b) := by
  obtain ⟨stop, hbody⟩ := readsIf_readBody (Header.shown b) h.toKeyed.descriptorsAt_le
  rw [outcome_parse_of_unmasked h.toKeyed h.masked]
  refine (hbody.reads ?_).runOn
  intro j hj
  rw [length_plain]
  exact ⟨h.descriptors j hj, h.inside j hj⟩

theorem outcome_parse_of_valuesOutside (hmagic : ¬ WrongMagic .scene b) (hsize : ¬ WrongSize b)
    (hlong : dataStart ≤ b.length) (hvalues : ¬ (Header.shown b).valuesAt ≤ b.length) :
    (parse b).outcome = .error
      (.outOfBounds dataStart ((Header.shown b).valuesAt - dataStart) b.length) := by
  have hheader := (Header.readsIf_read hmagic hsize).reads hlong
  refine (Traced.outcome_bind_of_ok hheader _).trans ?_
  simp only [hvalues, if_false]
  rfl

theorem outcome_parse_of_keyOutside (hmagic : ¬ WrongMagic .scene b) (hsize : ¬ WrongSize b)
    (hlong : dataStart ≤ b.length) (hvalues : (Header.shown b).valuesAt ≤ b.length)
    (hkey : ¬ ((Header.shown b).descriptorSize ≠ 0 →
      (Header.shown b).descriptorsAt + 12 ≤ b.length)) :
    ∃ offset len, (parse b).outcome = .error (.outOfBounds offset len b.length) := by
  have hheader := (Header.readsIf_read hmagic hsize).reads hlong
  obtain ⟨stop, hread⟩ := Header.readsIf_readKey (b := b) (Header.shown b) dataStart
  obtain ⟨offset, len, hout⟩ := hread.runsOut hkey
  refine ⟨offset, len, (Traced.outcome_bind_of_ok hheader _).trans ?_⟩
  simp only [hvalues, if_true]
  exact congrArg Traced.outcome (Traced.bind_of_error hout _)

/-- Without a wrong magic or a wrong size, the key is found or bytes are missing. -/
theorem outcome_parse_of_not_keyed (hmagic : ¬ WrongMagic .scene b) (hsize : ¬ WrongSize b)
    (h : ¬ Keyed b) : ∃ offset len, (parse b).outcome = .error (.outOfBounds offset len b.length) := by
  by_cases hlong : dataStart ≤ b.length
  · by_cases hvalues : (Header.shown b).valuesAt ≤ b.length
    · apply outcome_parse_of_keyOutside hmagic hsize hlong hvalues
      intro hkey
      have hdata : dataStart = 0x20 := rfl
      exact h ⟨hlong, take_of_not_wrongMagic hmagic (by omega),
        size_of_not_wrongSize hmagic hsize (by omega), hvalues, hkey⟩
    · exact ⟨_, _, outcome_parse_of_valuesOutside hmagic hsize hlong hvalues⟩
  · obtain ⟨offset, len, hout⟩ := (Header.readsIf_read hmagic hsize).runsOut hlong
    exact ⟨offset, len, congrArg Traced.outcome (Traced.bind_of_error hout _)⟩

/-- What is refused for nothing else is too short. -/
theorem outcome_parse_of_not_intact (hmagic : ¬ WrongMagic .scene b) (hsize : ¬ WrongSize b)
    (hkey : ¬ WrongKey b) (h : ¬ Intact b) :
    ∃ offset len, (parse b).outcome = .error (.outOfBounds offset len b.length) := by
  by_cases hkeyed : Keyed b
  · have hfits : shownKey b ≠ 0 → valuesEnd b ≤ b.length := by
      intro hmasked
      by_contra houtside
      exact hkey ⟨hkeyed, hmasked, by omega⟩
    obtain ⟨stop, hbody⟩ := readsIf_readBody (Header.shown b) hkeyed.descriptorsAt_le
    obtain ⟨offset, len, hout⟩ := hbody.runsOut (by
      intro hrecords
      rw [length_plain] at hrecords
      exact h ⟨hkeyed, hfits, fun j hj => (hrecords j hj).1, fun j hj => (hrecords j hj).2⟩)
    rw [length_plain] at hout
    refine ⟨offset, len, ?_⟩
    rw [outcome_parse_of_unmasked hkeyed hfits]
    exact Parser.outcome_runOn_of_error hout
  · exact outcome_parse_of_not_keyed hmagic hsize hkeyed

theorem exists_fault_of_not_intact (h : ¬ Intact b) : ∃ f, (parse b).outcome = .error f := by
  by_cases hmagic : WrongMagic .scene b
  · exact ⟨_, outcome_parse_of_wrongMagic hmagic⟩
  · by_cases hsize : WrongSize b
    · exact ⟨_, outcome_parse_of_wrongSize hsize⟩
    · by_cases hkey : WrongKey b
      · exact ⟨_, outcome_parse_of_wrongKey hkey⟩
      · obtain ⟨offset, len, hout⟩ := outcome_parse_of_not_intact hmagic hsize hkey h
        exact ⟨_, hout⟩

/-- **Scenes.** A buffer is read as a scene exactly if it is intact, and the
scene is the one that stands in it. Other buffers are refused for the magic,
for the size of the instructions or for the key, in this order, and if none of
these is wrong they are too short. -/
theorem parse_iff_intact (b : List UInt8) :
    (∀ x, (parse b).outcome = .ok x ↔ Intact b ∧ x = shown b) ∧
    (WrongMagic .scene b →
      (parse b).outcome = .error (.invalidMagic .scene (b.take 4))) ∧
    (WrongSize b → (parse b).outcome =
      .error (.sizeMismatch (Header.shown b).count (leWord32 (window b 0x0C 4)))) ∧
    (WrongKey b → (parse b).outcome =
      .error (.badKey (shownKey b) (Header.shown b).valuesAt (leNat (window b 0x14 4)) b.length)) ∧
    (¬ WrongMagic .scene b → ¬ WrongSize b → ¬ WrongKey b → ¬ Intact b →
      ∃ offset len, (parse b).outcome = .error (.outOfBounds offset len b.length)) := by
  refine ⟨?_, outcome_parse_of_wrongMagic, outcome_parse_of_wrongSize,
    outcome_parse_of_wrongKey, outcome_parse_of_not_intact⟩
  intro x
  constructor
  · intro hok
    have hintact : Intact b := by
      by_contra hnot
      obtain ⟨f, hfault⟩ := exists_fault_of_not_intact hnot
      rw [hfault] at hok
      cases hok
    have hshown := outcome_parse_of_intact hintact
    rw [hok] at hshown
    exact ⟨hintact, Except.ok.inj hshown⟩
  · intro h
    rw [h.2]
    exact outcome_parse_of_intact h.1

/-- One instruction, and two descriptors of which only the first byte of the
second lies before the values. -/
def straddling : List UInt8 :=
  [0x59, 0x53, 0x54, 0x42, 0xE1, 1, 0, 0, 1, 0, 0, 0, 4, 0, 0, 0, 13, 0, 0, 0, 13, 0, 0, 0,
    0, 0, 0, 0, 0, 0, 0, 0, 7, 2, 9, 0, 5, 0, 3, 1, 2, 0, 0, 0, 0, 0, 0, 0,
    6, 0, 8, 4, 2, 0, 0, 0, 11, 0, 0, 0, 0x42, 0x43]

/-- The same under a key. -/
def straddlingMasked : List UInt8 := (mask 0x2F5CA1E3 straddling).buffer

/-- Under its key the buffer is read; the second descriptor goes on in the
values. Without its last byte it is refused for the key, and without a key for
the byte that is missing. -/
theorem parse_iff_intact_straddling :
    Intact straddlingMasked ∧
    (parse straddlingMasked).outcome = .ok ⟨481, [⟨7, 2, 9⟩],
      [⟨5, (3, 1), [0, 8]⟩, ⟨6, (8, 4), [0x42, 0x43]⟩]⟩ ∧
    (parse straddlingMasked.dropLast).outcome = .error (.badKey 0x2F5CA1E3 0x31 13 0x3D) ∧
    (∃ offset len, (parse straddling.dropLast).outcome = .error (.outOfBounds offset len 0x3D)) ∧
    (parse (straddling.set 8 2)).outcome = .error (.sizeMismatch 2 4) ∧
    (parse (straddling.set 2 0x4C)).outcome =
      .error (.invalidMagic .scene [0x59, 0x53, 0x4C, 0x42]) := by
  have hintact : Intact straddlingMasked :=
    ⟨⟨by decide, by decide, by decide, by decide, by decide⟩, by decide, by decide, by decide⟩
  have hshown : (⟨481, [⟨7, 2, 9⟩],
      [⟨5, (3, 1), [0, 8]⟩, ⟨6, (8, 4), [0x42, 0x43]⟩]⟩ : Scene) = shown straddlingMasked := by
    decide
  refine ⟨hintact, ?_, ?_, ?_, ?_, ?_⟩
  · exact ((parse_iff_intact straddlingMasked).1 _).mpr ⟨hintact, hshown⟩
  · have hkeyed : Keyed straddlingMasked.dropLast :=
      ⟨by decide, by decide, by decide, by decide, by decide⟩
    exact (parse_iff_intact straddlingMasked.dropLast).2.2.2.1 ⟨hkeyed, by decide, by decide⟩
  · refine (parse_iff_intact straddling.dropLast).2.2.2.2 ?_ ?_ ?_ ?_
    · exact fun h => h.other (by decide)
    · exact fun h => h.other (by decide)
    · exact fun h => h.masked (by decide)
    · exact fun h => absurd (h.inside 1 (by decide)) (by decide)
  · exact (parse_iff_intact (straddling.set 8 2)).2.2.1 ⟨by decide, by decide, by decide⟩
  · exact (parse_iff_intact (straddling.set 2 0x4C)).2.1 ⟨by decide, by decide⟩

end Scene

end SceneScript
