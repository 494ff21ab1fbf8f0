import SceneScript.Proofs.Bytes.MaskEffect
import SceneScript.Proofs.Bytes.TwoBuffers
import SceneScript.Scene.Container

/-
  Reading two scenes abreast. The buffers need to have the same bytes only
  where a reader's way through the scene depends on them (`Scene.Places`): most
  of the header, the first two bytes of each instruction, the descriptors
  without their tags, and everything from the values on. Then both are read, or
  both fail for one reason, or the first is too short (`Scene.agree_parse`);
  and the scenes differ in nothing but what the other places hold
  (`Scene.Like`). The mask does not matter: both buffers show the same key, and
  it covers the same places.
-/

namespace SceneScript

variable {S : Nat → Prop} {b b' : List UInt8}

namespace Mask

theorem sameAt_overlay (key : UInt32) (used start stop : Nat) (h : SameAt S b b') :
    SameAt S (overlay key used start stop b) (overlay key used start stop b') := by
  refine ⟨by simpa using h.le, fun i hi hS => ?_⟩
  rw [length_overlay] at hi
  simp only [overlay, List.getElem?_mapIdx, h.bytes i hi hS]

end Mask

namespace Scene

/-! ## Masking -/

theorem length_maskRegions (sizes : List Nat) (offset : Nat) (m : Mask) (buffer : List UInt8) :
    (maskRegions sizes offset m buffer).1.length = buffer.length := by
  obtain ⟨stop, outcome, hregions⟩ := exists_overlay m sizes offset buffer.length
  rw [hregions buffer rfl, Mask.length_overlay]

/-- Whether masking regions fails, and how, is told by the size of the buffer. -/
theorem outcome_maskRegions_congr (sizes : List Nat) (offset : Nat) (m : Mask)
    (h : b.length = b'.length) :
    (maskRegions sizes offset m b).2 = (maskRegions sizes offset m b').2 := by
  obtain ⟨stop, outcome, hregions⟩ := exists_overlay m sizes offset b.length
  rw [hregions b rfl, hregions b' h.symm]

theorem outcome_maskRegions_of_not_fits {sizes : List Nat} {offset : Nat} (m : Mask)
    {buffer : List UInt8} (hsome : sizes ≠ []) (h : ¬ offset + sizes.sum ≤ buffer.length) :
    ∃ f, (maskRegions sizes offset m buffer).2 = .error f ∧ f.kind = .bounds := by
  obtain ⟨before, size, hstops⟩ := exists_stops hsome h
  rw [maskRegions_of_stops m hstops]
  exact ⟨_, rfl, rfl⟩

theorem length_buffer_mask (key : UInt32) (buffer : List UInt8) :
    (mask key buffer).buffer.length = buffer.length := by
  unfold mask
  split
  · rfl
  · split
    · rfl
    · exact length_maskRegions _ _ _ _

theorem sum_regionSizes (b : List UInt8) :
    (regionSizes b).sum =
      leNat (window b 12 4) + (leNat (window b 16 4) + leNat (window b 20 4)) := by
  show leNat (window b 12 4) + (leNat (window b 16 4) + (leNat (window b 20 4) + 0)) = _
  rw [Nat.add_zero]

theorem regionSizes_eq (h : SameAt S b b') (hS : ∀ i, 12 ≤ i → i < 24 → S i)
    (hlong : 24 ≤ b.length) : regionSizes b = regionSizes b' := by
  have hwindow : ∀ pos, 12 ≤ pos → pos + 4 ≤ 24 → window b pos 4 = window b' pos 4 :=
    fun pos hpos hend => h.window (fun i hi hi' => hS i (by omega) (by omega)) (by omega)
  show [leNat (window b 12 4), leNat (window b 16 4), leNat (window b 20 4)] =
    [leNat (window b' 12 4), leNat (window b' 16 4), leNat (window b' 20 4)]
  rw [hwindow 12 (by omega) (by omega), hwindow 16 (by omega) (by omega),
    hwindow 20 (by omega) (by omega)]

/-- Two buffers under one key have the same bytes where the plain ones do. -/
theorem agree_mask (key : UInt32) (h : SameAt S b b') (hS : ∀ i, 12 ≤ i → i < 24 → S i) :
    Agree (b.length < b'.length)
      (fun _ _ => SameAt S (mask key b).buffer (mask key b').buffer)
      (mask key b).report.outcome (mask key b').report.outcome := by
  unfold mask
  by_cases hkey : key = 0
  · rw [if_pos hkey, if_pos hkey]
    exact .ok h
  · rw [if_neg hkey, if_neg hkey]
    have hle := h.le
    by_cases hlong : b.length < regionSizesAt + 12
    · rw [if_pos hlong]
      refine Parser.agree_outOfBounds hle _ _ (fun heq => ?_)
      rw [if_pos (heq ▸ hlong)]
      rfl
    · have hlong' : ¬ b'.length < regionSizesAt + 12 := by omega
      have hsizes : regionSizes b = regionSizes b' :=
        regionSizes_eq h hS (by unfold regionSizesAt at hlong; omega)
      rw [if_neg hlong, if_neg hlong', ← hsizes]
      by_cases hfit : dataStart + (regionSizes b).sum ≤ b.length
      · simp only [maskRegions_of_fits (Mask.ofKey key) hfit,
          maskRegions_of_fits (Mask.ofKey key) (Nat.le_trans hfit hle)]
        exact .ok (Mask.sameAt_overlay _ _ _ _ h)
      · obtain ⟨f, hf, hkind⟩ := outcome_maskRegions_of_not_fits (Mask.ofKey key)
          (by simp [regionSizes]) hfit
        show Agree _ _ (maskRegions (regionSizes b) dataStart (Mask.ofKey key) b).2
          (maskRegions (regionSizes b) dataStart (Mask.ofKey key) b').2
        -- A region that leaves the shorter buffer need not leave the longer one.
        rcases Nat.lt_or_eq_of_le hle with hlt | heq
        · rw [hf]
          exact .short hlt hkind
        · rw [← outcome_maskRegions_congr _ _ _ heq, hf]
          exact .fault f

/-! ## The header -/

namespace Header

/-- What a header says, once it was read from a buffer. -/
structure StandsIn (h : Header) (buffer : List UInt8) : Prop where
  version : h.version = leWord32 (window buffer 4 4)
  count : h.count = leWord32 (window buffer 8 4)
  size : 4 * h.count.toNat = (leWord32 (window buffer 12 4)).toNat
  descriptorSize : h.descriptorSize = leWord32 (window buffer 16 4)
  long : dataStart ≤ buffer.length

/-- The places of a header that decide how reading goes on. -/
def places (i : Nat) : Prop := i < 4 ∨ 8 ≤ i ∧ i < 24

/-- Two headers with the same layout: only the version may differ. -/
structure SameLayout (h h' : Header) : Prop where
  count : h.count = h'.count
  descriptorSize : h.descriptorSize = h'.descriptorSize

theorem StandsIn.unique {h h' : Header} (hs : h.StandsIn b) (hs' : h'.StandsIn b) : h = h' := by
  cases h
  cases h'
  simp only [Header.mk.injEq]
  exact ⟨hs.version.trans hs'.version.symm, hs.count.trans hs'.count.symm,
    hs.descriptorSize.trans hs'.descriptorSize.symm⟩

theorem valuesAt_congr {h h' : Header} (hl : h.SameLayout h') : h.valuesAt = h'.valuesAt := by
  rw [valuesAt, valuesAt, descriptorsAt, descriptorsAt, hl.count, hl.descriptorSize]

theorem StandsIn.sameLayout {h h' : Header} (hs : h.StandsIn b) (hs' : h'.StandsIn b')
    (hsame : SameAt S b b') (hS : ∀ i, places i → S i) : SameLayout h h' := by
  have hlong : 32 ≤ b.length := hs.long
  refine ⟨?_, ?_⟩
  · rw [hs.count, hs'.count, hsame.window (fun i _ _ => hS i (.inr (by omega))) (by omega)]
  · rw [hs.descriptorSize, hs'.descriptorSize,
      hsame.window (fun i _ _ => hS i (.inr (by omega))) (by omega)]

theorem inBoth_read (hsame : SameAt S b b') (hS : ∀ i, places i → S i) :
    Parser.InBoth b b' 0 read read
      (fun h h' stop => h.StandsIn b ∧ h'.StandsIn b' ∧ stop = dataStart) := by
  have hle := hsame.le
  refine (Parser.inBoth_magic hsame .scene 0 (fun i _ hi => hS i (.inl (by omega)))).bind ?_
  rintro _ _ _ rfl
  refine (Parser.inBoth_word32 hle _).bind ?_
  rintro version version' _ ⟨_, hversion, hversion', rfl⟩
  refine (Parser.inBoth_word32 hle _).bind ?_
  rintro count count' _ ⟨_, hcount, hcount', rfl⟩
  refine (Parser.inBoth_word32 hle _).bind ?_
  rintro size size' _ ⟨hlong, hsize, hsize', rfl⟩
  have hcounts : count = count' := by
    rw [hcount, hcount', hsame.window (fun i _ _ => hS i (.inr (by omega))) (by omega)]
  have hsizes : size = size' := by
    rw [hsize, hsize', hsame.window (fun i _ _ => hS i (.inr (by omega))) (by omega)]
  rw [← hcounts, ← hsizes]
  refine Abreast.ite Iff.rfl (fun hmul => ?_) (fun _ => Parser.inBoth_fail _ _)
  refine (Parser.inBoth_word32 hle _).bind ?_
  rintro descriptorSize descriptorSize' _ ⟨_, hdescriptors, hdescriptors', rfl⟩
  refine (Parser.inBoth_skip hle _ 4).bind ?_
  rintro _ _ _ ⟨_, rfl⟩
  refine (Parser.inBoth_skip hle _ 4).bind ?_
  rintro _ _ _ ⟨_, rfl⟩
  refine (Parser.inBoth_skip hle _ 4).bind ?_
  rintro _ _ _ ⟨hend, rfl⟩
  refine Abreast.pure ⟨⟨hversion, hcount, ?_, hdescriptors, hend⟩,
    ⟨hversion', hcounts.trans hcount', ?_, hdescriptors', Nat.le_trans hend hle⟩, rfl⟩
  · rw [hmul, hsize]
  · rw [hmul, hsizes, hsize']

/-- The key that a buffer shows. -/
def shownKey (h : Header) (buffer : List UInt8) : UInt32 :=
  if h.descriptorSize = 0 then 0 else leWord32 (window buffer (h.descriptorsAt + 8) 4)

theorem inBoth_readKey (hle : b.length ≤ b'.length) {h h' : Header} (hl : SameLayout h h')
    (pos : Nat) :
    Parser.InBoth b b' pos h.readKey h'.readKey (fun key key' _ =>
      key = h.shownKey b ∧ key' = h.shownKey b' ∧
        (h.descriptorSize ≠ 0 → h.descriptorsAt + 12 ≤ b.length)) := by
  have hat : h'.descriptorsAt = h.descriptorsAt := by
    rw [descriptorsAt, descriptorsAt, hl.count]
  unfold readKey shownKey
  rw [hat, ← hl.descriptorSize]
  refine Abreast.ite Iff.rfl (fun hzero => ?_) (fun hsome => ?_)
  · rw [if_pos hzero, if_pos hzero]
    exact Abreast.pure ⟨rfl, rfl, fun hne => absurd hzero hne⟩
  · rw [if_neg hsome, if_neg hsome]
    refine (Parser.inBoth_seek hle pos _).bind ?_
    rintro _ _ _ ⟨_, rfl⟩
    refine (Parser.inBoth_word32 hle _).mono ?_
    rintro key key' _ ⟨hend, hkey, hkey', rfl⟩
    exact ⟨hkey, hkey', fun _ => hend⟩

end Header

/-! ## The body -/

/-- Instructions at one place of two buffers. -/
structure LikeInstruction (S : Nat → Prop) (pos : Nat) (i i' : Instruction) : Prop where
  opcode : i.opcode = i'.opcode
  attributeCount : i.attributeCount = i'.attributeCount
  blockOffset : S (pos + 2) → i.blockOffset = i'.blockOffset

/-- Attributes whose descriptors stand at one place of two buffers. -/
structure LikeAttribute (S : Nat → Prop) (pos : Nat) (a a' : Attribute) : Prop where
  id : a.id = a'.id
  value : a.value = a'.value
  tag : S (pos + 2) → a.typeTag.1 = a'.typeTag.1
  subType : S (pos + 3) → a.subType = a'.subType

/-- The places of a scene that decide how reading goes on. -/
structure Places (S : Nat → Prop) (h : Header) : Prop where
  opcodes : ∀ k, k < h.count.toNat → S (dataStart + 4 * k) ∧ S (dataStart + 4 * k + 1)
  operands : ∀ j, j < h.descriptorCount → ∀ i, i < 12 → i ≠ 2 → i ≠ 3 →
    S (h.descriptorsAt + 12 * j + i)
  values : ∀ i, h.valuesAt ≤ i → S i

theorem places_all (h : Header) : Places (fun _ => True) h :=
  ⟨fun _ _ => ⟨trivial, trivial⟩, fun _ _ _ _ _ _ => trivial, fun _ _ => trivial⟩

/-- Scenes with one layout that differ only where the buffers do. -/
structure Like (S : Nat → Prop) (h : Header) (x y : Scene) : Prop where
  instructions : Each (fun k => LikeInstruction S (dataStart + 4 * k)) 0
    x.instructions y.instructions
  attributes : Each (fun j => LikeAttribute S (h.descriptorsAt + 12 * j)) 0
    x.attributes y.attributes

theorem inBoth_readInstruction (hsame : SameAt S b b') {pos : Nat} (hS : S pos)
    (hS' : S (pos + 1)) :
    Parser.InBoth b b' pos readInstruction readInstruction
      (fun i i' stop => LikeInstruction S pos i i' ∧ stop = pos + 4) := by
  have hle := hsame.le
  have hone : ∀ {k}, S k → ∀ i, k ≤ i → i < k + 1 → S i := by
    intro k hk i hi hi'
    rwa [Nat.le_antisymm (Nat.le_of_lt_succ hi') hi]
  refine (Parser.inBoth_byte hle _).bind ?_
  rintro opcode opcode' _ ⟨hlong, rfl, rfl, rfl⟩
  refine (Parser.inBoth_byte hle _).bind ?_
  rintro count count' _ ⟨hlong', rfl, rfl, rfl⟩
  refine (Parser.inBoth_byte hle _).bind ?_
  rintro offset offset' _ ⟨hlong'', rfl, rfl, rfl⟩
  refine (Parser.inBoth_skip hle _ 1).bind ?_
  rintro _ _ _ ⟨_, rfl⟩
  refine Abreast.pure ⟨⟨?_, ?_, fun hS'' => ?_⟩, rfl⟩
  · exact congrArg (fun bytes => UInt8.ofNat (leNat bytes)) (hsame.window (hone hS) hlong)
  · exact congrArg (fun bytes => UInt8.ofNat (leNat bytes)) (hsame.window (hone hS') hlong')
  · exact congrArg (fun bytes => UInt8.ofNat (leNat bytes)) (hsame.window (hone hS'') hlong'')

theorem getD_window (hsame : SameAt S b b') {pos i n : Nat} (hi : i < n)
    (hlong : pos + n ≤ b.length) (hS : S (pos + i)) :
    (window b pos n).getD i 0 = (window b' pos n).getD i 0 := by
  rw [getD_window_eq b pos hi, getD_window_eq b' pos hi, List.getD_eq_getElem?_getD,
    List.getD_eq_getElem?_getD, hsame.bytes (pos + i) (by omega) hS]

theorem inBoth_readAttribute (hsame : SameAt S b b') {pos valuesAt : Nat}
    (hS : ∀ i, i < 12 → i ≠ 2 → i ≠ 3 → S (pos + i)) (hvalues : ∀ i, valuesAt ≤ i → S i) :
    Parser.InBoth b b' pos (readAttribute valuesAt) (readAttribute valuesAt)
      (fun a a' stop => LikeAttribute S pos a a' ∧ stop = pos + 12) := by
  have hle := hsame.le
  have hplace : ∀ i, pos ≤ i → i < pos + 12 → i ≠ pos + 2 → i ≠ pos + 3 → S i := by
    intro i hi hi' h₂ h₃
    have hat := hS (i - pos) (by omega) (by omega) (by omega)
    rwa [Nat.add_sub_cancel' hi] at hat
  refine (Parser.inBoth_word16 hle _).bind ?_
  rintro id id' _ ⟨hlong, hid, hid', rfl⟩
  refine (Parser.inBoth_take hle _ 2).bind ?_
  rintro tag tag' _ ⟨htag, rfl, rfl, rfl⟩
  refine (Parser.inBoth_word32 hle _).bind ?_
  rintro len len' _ ⟨_, hlen, hlen', rfl⟩
  refine (Parser.inBoth_word32 hle _).bind ?_
  rintro offset offset' _ ⟨_, hoffset, hoffset', rfl⟩
  have hlens : len = len' := by
    rw [hlen, hlen', hsame.window (fun i _ _ => hplace i (by omega) (by omega) (by omega)
      (by omega)) (by omega)]
  have hoffsets : offset = offset' := by
    rw [hoffset, hoffset', hsame.window (fun i _ _ => hplace i (by omega) (by omega) (by omega)
      (by omega)) (by omega)]
  rw [← hlens, ← hoffsets]
  -- The value lies behind the descriptors, where the buffers have the same bytes.
  have hfetch : Parser.InBoth b b' (pos + 2 + 2 + 4 + 4)
      (do Parser.seek (valuesAt + offset.toNat); Parser.take len.toNat)
      (do Parser.seek (valuesAt + offset.toNat); Parser.take len.toNat)
      (fun value value' _ => value = value') := by
    refine (Parser.inBoth_seek hle _ _).bind ?_
    rintro _ _ _ ⟨_, rfl⟩
    refine (Parser.inBoth_take hle _ _).mono ?_
    rintro value value' _ ⟨hend, rfl, rfl, _⟩
    exact hsame.window (fun i hi _ => hvalues i (by omega)) hend
  refine (Parser.inBoth_aside hfetch).bind ?_
  rintro value value' _ ⟨⟨_, rfl⟩, rfl⟩
  refine Abreast.pure ⟨⟨?_, rfl, fun hS₂ => ?_, fun hS₃ => ?_⟩, rfl⟩
  · show id = id'
    rw [hid, hid', hsame.window (fun i _ _ => hplace i (by omega) (by omega) (by omega)
      (by omega)) hlong]
  · exact getD_window hsame (by omega) htag hS₂
  · exact getD_window hsame (by omega) htag hS₃

/-- Item number `j` of a table stands `width` bytes times `j` behind its start. -/
theorem inBoth_table {α : Type} {Q : Nat → α → α → Prop} {p : Parser α} {n start width : Nat}
    (h : ∀ j, j < n → Parser.InBoth b b' (start + width * j) p p
      (fun x y stop => Q j x y ∧ stop = start + width * j + width)) :
    Parser.InBoth b b' start (Parser.times n p) (Parser.times n p)
      (fun xs ys _ => Each Q 0 xs ys) := by
  refine (Parser.inBoth_times (Q := Q) (P := fun j pos => pos = start + width * j)
    ?_ (Nat.zero_add n) rfl).mono (fun _ _ _ heach => heach.1)
  rintro j _ hj rfl
  refine (h j hj).mono ?_
  rintro x y _ ⟨hq, rfl⟩
  exact ⟨hq, by rw [Nat.mul_succ, Nat.add_assoc]⟩

theorem inBoth_readBody (hsame : SameAt S b b') {h h' : Header} (hl : h.SameLayout h')
    (hS : Places S h) :
    Parser.InBoth b b' 0 (readBody h) (readBody h') (fun x y _ =>
      x.version = h.version ∧ y.version = h'.version ∧ Like S h x y) := by
  have hle := hsame.le
  have hat : h'.descriptorsAt = h.descriptorsAt := by
    rw [Header.descriptorsAt, Header.descriptorsAt, hl.count]
  have hmany : h'.descriptorCount = h.descriptorCount := by
    rw [Header.descriptorCount, Header.descriptorCount, hl.descriptorSize]
  unfold readBody
  rw [← Header.valuesAt_congr hl, hat, hmany, ← hl.count]
  refine (Parser.inBoth_seek hle 0 _).bind ?_
  rintro _ _ _ ⟨_, rfl⟩
  refine (inBoth_table (Q := fun j => LikeAttribute S (h.descriptorsAt + 12 * j))
    (fun j hj => inBoth_readAttribute hsame (hS.operands j hj) hS.values)).bind ?_
  intro attributes attributes' _ hattributes
  refine (Parser.inBoth_seek hle _ _).bind ?_
  rintro _ _ _ ⟨_, rfl⟩
  refine (inBoth_table (Q := fun k => LikeInstruction S (dataStart + 4 * k))
    (fun k hk => inBoth_readInstruction hsame (hS.opcodes k hk).1 (hS.opcodes k hk).2)).bind ?_
  intro instructions instructions' _ hinstructions
  exact Abreast.pure ⟨rfl, rfl, hinstructions, hattributes⟩

/-! ## Whole scenes -/

/-- What is left to do once the header and the key are known. -/
def readPlain (h : Header) (key : UInt32) (buffer : List UInt8) : Traced Scene := do
  (mask key buffer).report
  Parser.runOn (readBody h) (mask key buffer).buffer

/-- With the same bytes in their headers, two buffers are read alike if what
comes after the headers is. -/
theorem agree_parse_of_headers {R : Scene → Scene → Prop} (hsame : SameAt S b b')
    (hheader : ∀ i, Header.places i → S i)
    (hplain : ∀ h h' : Header, h.StandsIn b → h'.StandsIn b' → h.SameLayout h' →
      (h.descriptorSize ≠ 0 → h.descriptorsAt + 12 ≤ b.length) →
      Agree (b.length < b'.length) R (readPlain h (h.shownKey b) b).outcome
        (readPlain h' (h.shownKey b') b').outcome) :
    Agree (b.length < b'.length) R (parse b).outcome (parse b').outcome := by
  have hle := hsame.le
  unfold parse
  refine (Header.inBoth_read hsame hheader _ _ ⟨rfl, rfl⟩).traced ?_
  rintro ⟨h, r⟩ ⟨h', r'⟩ _ ⟨stop, ⟨hr, hr'⟩, hstands, hstands', -⟩
  simp only at hr hr' hstands hstands' ⊢
  have hl := hstands.sameLayout hstands' hsame hheader
  rw [← Header.valuesAt_congr hl, hr, hr']
  by_cases hvalues : h.valuesAt ≤ b.length
  · rw [if_pos hvalues, if_pos (Nat.le_trans hvalues hle)]
    refine (Header.inBoth_readKey hle hl stop _ _ ⟨rfl, rfl⟩).traced ?_
    rintro ⟨key, _⟩ ⟨key', _⟩ _ ⟨_, _, hkey, hkey', hlong⟩
    simp only at hkey hkey' ⊢
    rw [hkey, hkey']
    refine Agree.traced (R := fun _ _ => True) (.ok trivial) (fun _ _ _ _ => ?_)
    exact hplain h h' hstands hstands' hl hlong
  · rw [if_neg hvalues]
    refine Parser.agree_outOfBounds hle _ _ (fun heq => ?_)
    rw [if_neg (heq ▸ hvalues)]
    rfl

/-- The key field is one of the places that decide. -/
theorem Header.shownKey_congr {h : Header} (hsame : SameAt S b b') (hS : Places S h)
    (hlong : h.descriptorSize ≠ 0 → h.descriptorsAt + 12 ≤ b.length) :
    h.shownKey b = h.shownKey b' := by
  unfold shownKey
  split
  · rfl
  · next hsome =>
    have hpos : 0 < h.descriptorSize.toNat :=
      Nat.pos_of_ne_zero (fun hzero => hsome (UInt32.toNat_inj.mp hzero))
    have hfirst : 0 < h.descriptorCount := by
      unfold descriptorCount
      omega
    have hend := hlong hsome
    rw [hsame.window (fun i hi hi' => ?_) (by omega)]
    have hplace := hS.operands 0 hfirst (i - h.descriptorsAt) (by omega) (by omega) (by omega)
    rwa [Nat.mul_zero, Nat.add_zero, Nat.add_sub_cancel' (by omega)] at hplace

/-- **Two scenes abreast.** Buffers with the same bytes at the places that
decide are both read as scenes alike, or fail for one reason, or the first one
is too short. -/
theorem agree_parse (hsame : SameAt S b b') (hheader : ∀ i, Header.places i → S i)
    (hplaces : ∀ h, h.StandsIn b → Places S h) :
    Agree (b.length < b'.length)
      (fun x y => ∃ h h' : Header, h.StandsIn b ∧ h'.StandsIn b' ∧ x.version = h.version ∧
        y.version = h'.version ∧ Like S h x y)
      (parse b).outcome (parse b').outcome := by
  refine agree_parse_of_headers hsame hheader (fun h h' hstands hstands' hl hlong => ?_)
  have hS := hplaces h hstands
  -- Both buffers show one key, so the unmasked buffers have the same bytes where these have.
  rw [← Header.shownKey_congr hsame hS hlong]
  refine (agree_mask _ hsame (fun i hi hi' => hheader i (.inr ⟨by omega, hi'⟩))).traced ?_
  intro _ _ _ hplain
  refine (Parser.agree_runOn (inBoth_readBody hplain hl hS)).mono ?_ ?_
  · rw [length_buffer_mask, length_buffer_mask]
    exact id
  · rintro x y ⟨_, hx, hy, hlike⟩
    exact ⟨h, h', hstands, hstands', hx, hy, hlike⟩

end Scene

end SceneScript
