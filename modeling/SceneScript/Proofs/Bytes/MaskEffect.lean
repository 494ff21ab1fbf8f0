import SceneScript.Proofs.Bytes.Masking

/-
  What the mask does to any buffer, also to one whose regions leave it. Regions
  are masked one after the other up to the first that does not fit (`Stops`);
  which one that is depends on the sizes alone, so a second run with the same
  key covers the same bytes and takes the mask off again (`Scene.mask_twice`).
  Keys add up by exclusive or (`Scene.mask_xor`).
-/

namespace SceneScript

namespace Mask

theorem keyByte_eq (key : UInt32) (i : Nat) :
    keyByte key i = (leBytes 4 key.toNat).getD (i % 4) 0 := by
  have hi : i % 4 < 4 := Nat.mod_lt i (by decide)
  have hbyte : keyByte key (i % 4) = keyByte key i := by
    rw [keyByte, keyByte, Nat.mod_mod]
  rw [← keyBytes_eq, List.getD_eq_getElem?_getD, List.getElem?_map, List.getElem?_range hi]
  simp [hbyte]

theorem keyByte_xor (first second : UInt32) (i : Nat) :
    keyByte (first ^^^ second) i = keyByte first i ^^^ keyByte second i := by
  have hpow : Nat.pow 256 (i % 4) = 2 ^ (8 * (i % 4)) := (Nat.pow_mul 2 8 (i % 4)).symm
  simp only [keyByte, UInt32.toNat_xor, hpow, ← Nat.shiftRight_eq_div_pow,
    Nat.shiftRight_xor_distrib, UInt8.ofNat_xor]

/-- One key after another is their exclusive or. -/
theorem overlay_xor (first second : UInt32) (used start stop : Nat) (buffer : List UInt8) :
    overlay second used start stop (overlay first used start stop buffer) =
      overlay (first ^^^ second) used start stop buffer := by
  apply List.ext_getElem (by simp)
  intro i h₁ h₂
  simp only [overlay, List.getElem_mapIdx]
  split
  · rw [keyByte_xor, UInt8.xor_assoc]
  · rfl

theorem overlay_overlay (key : UInt32) (used start stop : Nat) (buffer : List UInt8) :
    overlay key used start stop (overlay key used start stop buffer) = buffer := by
  rw [overlay_xor, UInt32.xor_self, overlay_zero]

end Mask

namespace Scene

/-! ## The first region that does not fit -/

/-- Of regions of the given sizes, one after the other from `offset` on, those
in `before` lie within `len` bytes and the next one, of `size` bytes, does not. -/
structure Stops (sizes : List Nat) (offset len : Nat) (before : List Nat) (size : Nat) :
    Prop where
  split : ∃ after, sizes = before ++ size :: after
  inside : before = [] ∨ offset + before.sum ≤ len
  outside : len < offset + before.sum + size

/-- Regions that do not all fit have a first one that does not. -/
theorem exists_stops {sizes : List Nat} {offset len : Nat} (hsome : sizes ≠ [])
    (h : ¬ offset + sizes.sum ≤ len) : ∃ before size, Stops sizes offset len before size := by
  induction sizes generalizing offset with
  | nil => exact absurd rfl hsome
  | cons size rest ih =>
    rw [List.sum_cons] at h
    by_cases hfit : offset + size ≤ len
    · have hrest : rest ≠ [] := by
        intro hnil
        rw [hnil, List.sum_nil] at h
        omega
      have hnext : ∃ before next, Stops rest (offset + size) len before next :=
        ih hrest (by omega)
      obtain ⟨before, next, ⟨after, hsplit⟩, hinside, houtside⟩ := hnext
      refine ⟨size :: before, next, ⟨after, by rw [hsplit, List.cons_append]⟩, .inr ?_, ?_⟩
      · rw [List.sum_cons]
        cases hinside with
        | inl hnone => simpa [hnone] using hfit
        | inr hle => omega
      · rw [List.sum_cons]
        omega
    · refine ⟨[], size, ⟨rest, rfl⟩, .inl rfl, ?_⟩
      rw [List.sum_nil]
      omega

/-- Masking goes up to the first region that does not fit, and names it. -/
theorem maskRegions_of_stops (m : Mask) {buffer : List UInt8} {sizes before : List Nat}
    {offset size : Nat} (h : Stops sizes offset buffer.length before size) :
    maskRegions sizes offset m buffer =
      (Mask.overlay m.key m.used offset (offset + before.sum) buffer,
        .error (.badKey m.key (offset + before.sum) size buffer.length)) := by
  obtain ⟨⟨after, rfl⟩, hinside, houtside⟩ := h
  induction before generalizing offset m buffer with
  | nil =>
    rw [List.sum_nil, Nat.add_zero] at houtside ⊢
    rw [List.nil_append, maskRegions, Mask.applyRegion, if_neg (by omega), Mask.overlay_empty]
  | cons first before ih =>
    have hle : offset + (first :: before).sum ≤ buffer.length := by
      cases hinside with
      | inl hnil => cases hnil
      | inr hle => exact hle
    rw [List.sum_cons] at hle houtside
    -- The regions after the first one start where it ends, in the buffer and in the key.
    have hrest : maskRegions (before ++ size :: after) (offset + first) ⟨m.key, m.used + first⟩
        (Mask.overlay m.key m.used offset (offset + first) buffer) = _ := ih _
      (.inr (by rw [Mask.length_overlay]; omega)) (by rw [Mask.length_overlay]; omega)
    rw [List.cons_append, maskRegions, m.applyRegion_of_fits (by omega)]
    simp only
    rw [hrest, Mask.overlay_append, Mask.length_overlay, List.sum_cons, Nat.add_assoc]

/-- What masking does to a buffer, and how it ends, is told by the sizes of the
regions and of the buffer. -/
theorem exists_overlay (m : Mask) (sizes : List Nat) (offset len : Nat) :
    ∃ stop outcome, ∀ buffer : List UInt8, buffer.length = len →
      maskRegions sizes offset m buffer =
        (Mask.overlay m.key m.used offset stop buffer, outcome) := by
  by_cases hfits : offset + sizes.sum ≤ len
  · refine ⟨offset + sizes.sum, .ok (), ?_⟩
    intro buffer hlen
    exact maskRegions_of_fits m (by rw [hlen]; exact hfits)
  · by_cases hsome : sizes = []
    · refine ⟨offset, .ok (), ?_⟩
      intro buffer hlen
      rw [hsome, maskRegions, Mask.overlay_empty]
    · obtain ⟨before, size, hstops⟩ := exists_stops hsome hfits
      refine ⟨offset + before.sum, .error (.badKey m.key (offset + before.sum) size len), ?_⟩
      intro buffer hlen
      subst hlen
      exact maskRegions_of_stops m hstops

/-! ## The mask -/

theorem mask_of_short {key : UInt32} (hkey : key ≠ 0) {b : List UInt8}
    (h : b.length < regionSizesAt + 12) :
    mask key b = ⟨b, Traced.fail (.outOfBounds regionSizesAt 12 b.length)⟩ := by
  rw [mask, if_neg hkey, if_pos h]

theorem mask_of_long {key : UInt32} (hkey : key ≠ 0) {b buffer : List UInt8}
    {outcome : Except Fault Unit} (h : regionSizesAt + 12 ≤ b.length)
    (hregions : maskRegions (regionSizes b) dataStart (Mask.ofKey key) b = (buffer, outcome)) :
    mask key b = ⟨buffer, do
      Traced.report (.unmasking (regionSizes b) key)
      Traced.ofExcept outcome⟩ := by
  rw [mask, if_neg hkey, if_neg (by omega)]
  simp only [hregions]

/-- Masking a second time takes the mask off, and goes as it went the first time. -/
theorem mask_twice (key : UInt32) (b : List UInt8) :
    mask key (mask key b).buffer = ⟨b, (mask key b).report⟩ := by
  by_cases hkey : key = 0
  · rw [mask, if_pos hkey, mask, if_pos hkey]
  · by_cases hlong : regionSizesAt + 12 ≤ b.length
    · obtain ⟨stop, outcome, hregions⟩ :=
        exists_overlay (Mask.ofKey key) (regionSizes b) dataStart b.length
      have hmask : ∀ buffer : List UInt8, buffer.length = b.length →
          regionSizes buffer = regionSizes b →
          mask key buffer = ⟨Mask.overlay key 0 dataStart stop buffer, do
            Traced.report (.unmasking (regionSizes b) key)
            Traced.ofExcept outcome⟩ := by
        intro buffer hlen hsizes
        have hbuffer := hregions buffer hlen
        rw [← hsizes] at hbuffer ⊢
        exact mask_of_long hkey (by rw [hlen]; exact hlong) hbuffer
      -- The masked buffer has the same header, so the same regions are masked again.
      rw [hmask b rfl rfl, hmask _ (Mask.length_overlay key 0 dataStart stop b)
        (regionSizes_congr (Mask.take_overlay key 0 stop b (Nat.le_refl _))),
        Mask.overlay_overlay]
    · have hshort := mask_of_short (b := b) hkey (by omega)
      rw [hshort]
      exact hshort

/-- Masking twice gives the buffer back. -/
theorem mask_mask (key : UInt32) (b : List UInt8) :
    (mask key (mask key b).buffer).buffer = b := by
  rw [mask_twice]

/-- `masked` is `b` with every byte from the end of the header on and before
`stop` combined with the four key bytes, repeated from the end of the header. -/
structure MaskedTo (key : UInt32) (stop : Nat) (b masked : List UInt8) : Prop where
  inside : ∀ i, dataStart ≤ i → i < stop → masked[i]? =
    b[i]?.map (fun c => c ^^^ (leBytes 4 key.toNat).getD ((i - dataStart) % 4) 0)
  outside : ∀ i, ¬ (dataStart ≤ i ∧ i < stop) → masked[i]? = b[i]?

theorem maskedTo_overlay (key : UInt32) (stop : Nat) (b : List UInt8) :
    MaskedTo key stop b (Mask.overlay key 0 dataStart stop b) := by
  constructor
  · intro i hstart hstop
    rw [Mask.overlay, List.getElem?_mapIdx]
    simp only [hstart, hstop, and_self, if_true, Mask.keyByte_eq, Nat.zero_add]
  · intro i hout
    rw [Mask.overlay, List.getElem?_mapIdx]
    simp only [hout, if_false, Option.map_id']

theorem mask_of_stops {key : UInt32} (hkey : key ≠ 0) {b : List UInt8} {before : List Nat}
    {size : Nat} (hlong : regionSizesAt + 12 ≤ b.length)
    (h : Stops (regionSizes b) dataStart b.length before size) :
    (mask key b).report.outcome = .error (.badKey key (dataStart + before.sum) size b.length) ∧
      MaskedTo key (dataStart + before.sum) b (mask key b).buffer := by
  rw [mask_of_long hkey hlong (maskRegions_of_stops (Mask.ofKey key) h)]
  exact ⟨rfl, maskedTo_overlay key (dataStart + before.sum) b⟩

/-- Masking whole regions under one key after another is masking them under the
exclusive or of the keys. -/
theorem mask_xor (key other : UInt32) {b : List UInt8} (h : Fits b) :
    (mask other (mask key b).buffer).buffer = (mask (key ^^^ other) b).buffer := by
  have hsizes : regionSizes (mask key b).buffer = regionSizes b :=
    regionSizes_congr (take_mask key h)
  rw [buffer_mask other (fits_mask key h), hsizes, buffer_mask key h,
    buffer_mask (key ^^^ other) h, Mask.overlay_xor]

/-- **What the mask does.** A buffer without region sizes stays as it is. In any
other one the regions are masked up to the first that does not fit, which the
fault names, and nothing else changes. In either case masking once more takes
the mask off again, with the same outcome. Where all regions fit, two keys add
up to their exclusive or. -/
theorem mask_effect {key : UInt32} (hkey : key ≠ 0) (b : List UInt8) :
    (b.length < 0x18 → mask key b = ⟨b, Traced.fail (.outOfBounds 0x0C 12 b.length)⟩) ∧
    (0x18 ≤ b.length →
      regionSizes b = [leNat ((b.drop 0x0C).take 4), leNat ((b.drop 0x10).take 4),
        leNat ((b.drop 0x14).take 4)] ∧
      ((mask key b).report.outcome = .ok () ↔ Fits b) ∧
      (Fits b → MaskedTo key (dataStart + (regionSizes b).sum) b (mask key b).buffer) ∧
      (¬ Fits b → ∃ before size, Stops (regionSizes b) dataStart b.length before size ∧
        (mask key b).report.outcome =
          .error (.badKey key (dataStart + before.sum) size b.length) ∧
        MaskedTo key (dataStart + before.sum) b (mask key b).buffer)) ∧
    mask key (mask key b).buffer = ⟨b, (mask key b).report⟩ ∧
    (Fits b → ∀ other : UInt32,
      (mask other (mask key b).buffer).buffer = (mask (key ^^^ other) b).buffer ∧
      (mask other (mask key b).buffer).report.outcome = .ok () ∧
      (mask (key ^^^ other) b).report.outcome = .ok ()) := by
  refine ⟨fun hshort => mask_of_short hkey hshort, ?_, mask_twice key b, ?_⟩
  · intro hlong
    have hstops : ¬ Fits b → ∃ before size,
        Stops (regionSizes b) dataStart b.length before size :=
      fun h => exists_stops (by simp [regionSizes]) h
    refine ⟨rfl, ⟨?_, report_mask key⟩, ?_, ?_⟩
    · intro hok
      by_contra hnot
      obtain ⟨before, size, h⟩ := hstops hnot
      rw [(mask_of_stops hkey hlong h).1] at hok
      cases hok
    · intro hfits
      rw [buffer_mask key hfits]
      exact maskedTo_overlay key _ b
    · intro hnot
      obtain ⟨before, size, h⟩ := hstops hnot
      exact ⟨before, size, h, mask_of_stops hkey hlong h⟩
  · intro hfits other
    exact ⟨mask_xor key other hfits, report_mask other (fits_mask key hfits),
      report_mask (key ^^^ other) hfits⟩

/-- The header of a scene with regions of three, five and one byte, and six of
these nine bytes. -/
def cutShort : List UInt8 :=
  [0x59, 0x53, 0x54, 0x42, 0xE1, 1, 0, 0, 0, 0, 0, 0, 3, 0, 0, 0, 5, 0, 0, 0, 1, 0, 0, 0,
    0, 0, 0, 0, 0, 0, 0, 0, 0x10, 0x20, 0x30, 0x40, 0x50, 0x60]

/-- The second region leaves the buffer: only the first one is masked, and the
second run, which ends with the same fault, takes the mask off. -/
theorem mask_effect_cutShort :
    (0x04030201 : UInt32) ≠ 0 ∧ 0x18 ≤ cutShort.length ∧ ¬ Fits cutShort ∧
      (mask 0x04030201 cutShort).report.outcome = .error (.badKey 0x04030201 0x23 5 0x26) ∧
      MaskedTo 0x04030201 0x23 cutShort (mask 0x04030201 cutShort).buffer ∧
      mask 0x04030201 (mask 0x04030201 cutShort).buffer =
        ⟨cutShort, (mask 0x04030201 cutShort).report⟩ := by
  have hkey : (0x04030201 : UInt32) ≠ 0 := by decide
  have hlong : 0x18 ≤ cutShort.length := by decide
  have hnot : ¬ Fits cutShort := by unfold Fits; decide
  have heffect := mask_effect hkey cutShort
  have hreport : (mask 0x04030201 cutShort).report.outcome =
      .error (.badKey 0x04030201 0x23 5 0x26) := by decide
  obtain ⟨before, size, -, hfault, hmasked⟩ := (heffect.2.1 hlong).2.2.2 hnot
  rw [hreport] at hfault
  injection hfault with hfault
  injection hfault with _ hstop
  rw [← hstop] at hmasked
  exact ⟨hkey, hlong, hnot, hreport, hmasked, heffect.2.2.1⟩

end Scene

end SceneScript
