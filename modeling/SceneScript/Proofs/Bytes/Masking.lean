import SceneScript.Proofs.Bytes.Reading
import SceneScript.Scene.Mask

/-
  What the mask does to a buffer. Regions that follow each other are masked as
  one (`maskRegions_of_fits`), so a scene whose regions fit is masked byte by
  byte from the end of its header on, with the key at its first byte there
  (`Scene.buffer_mask`). The header keeps the sizes of the regions and stays
  as it is (`Scene.take_mask`).
-/

namespace SceneScript

namespace Mask

/-- `buffer` with the bytes from `start` on and before `stop` masked, `used`
bytes into the key. -/
def overlay (key : UInt32) (used start stop : Nat) (buffer : List UInt8) : List UInt8 :=
  buffer.mapIdx (fun i b =>
    if start ≤ i ∧ i < stop then b ^^^ keyByte key (used + (i - start)) else b)

@[simp] theorem length_overlay (key : UInt32) (used start stop : Nat) (buffer : List UInt8) :
    (overlay key used start stop buffer).length = buffer.length := by
  simp [overlay]

theorem overlay_empty (key : UInt32) (used start : Nat) (buffer : List UInt8) :
    overlay key used start start buffer = buffer := by
  apply List.ext_getElem (by simp)
  intro i h₁ h₂
  simp only [overlay, List.getElem_mapIdx]
  rw [if_neg (by omega)]

/-- Two masked stretches that meet are one. -/
theorem overlay_append (key : UInt32) (used start : Nat) (len rest : Nat) (buffer : List UInt8) :
    overlay key (used + len) (start + len) (start + len + rest)
        (overlay key used start (start + len) buffer) =
      overlay key used start (start + (len + rest)) buffer := by
  apply List.ext_getElem (by simp)
  intro i h₁ h₂
  simp only [overlay, List.getElem_mapIdx]
  -- Only one of the two stretches reaches a byte, so the masks do not add up.
  by_cases hlow : i < start + len
  · rw [if_neg (by omega)]
    by_cases hstart : start ≤ i
    · rw [if_pos ⟨hstart, hlow⟩, if_pos ⟨hstart, by omega⟩]
    · rw [if_neg (by omega), if_neg (by omega)]
  · rw [if_neg (c := start ≤ i ∧ i < start + len) (by omega)]
    by_cases hhigh : i < start + len + rest
    · have hphase : used + len + (i - (start + len)) = used + (i - start) := by omega
      rw [if_pos ⟨by omega, hhigh⟩, if_pos ⟨by omega, by omega⟩, hphase]
    · rw [if_neg (by omega), if_neg (by omega)]

theorem take_overlay (key : UInt32) (used : Nat) {start n : Nat} (stop : Nat)
    (buffer : List UInt8) (h : n ≤ start) :
    (overlay key used start stop buffer).take n = buffer.take n := by
  apply List.ext_getElem (by simp)
  intro i h₁ h₂
  have hi : i < n := by
    rw [List.length_take] at h₂
    omega
  simp only [overlay, List.getElem_take, List.getElem_mapIdx]
  rw [if_neg (by omega)]

theorem keyByte_zero (i : Nat) : keyByte 0 i = 0 := by
  simp [keyByte]

/-- The key zero is no mask at all. -/
theorem overlay_zero (used start stop : Nat) (buffer : List UInt8) :
    overlay 0 used start stop buffer = buffer := by
  apply List.ext_getElem (by simp)
  intro i h₁ h₂
  simp only [overlay, List.getElem_mapIdx, keyByte_zero, UInt8.xor_zero, ite_self]

/-- The key repeats every four bytes. -/
theorem keyByte_add_mul (key : UInt32) (n i : Nat) : keyByte key (4 * n + i) = keyByte key i := by
  have hmod : (4 * n + i) % 4 = i % 4 := by omega
  rw [keyByte, hmod, keyByte]

/-- The first four key bytes spell the key. -/
theorem keyBytes_eq (key : UInt32) :
    (List.range 4).map (keyByte key) = leBytes 4 key.toNat := by
  simp [List.range_succ, keyByte, leBytes, Nat.div_div_eq_div_mul]

theorem applyRegion_of_fits (m : Mask) {buffer : List UInt8} {offset len : Nat}
    (h : offset + len ≤ buffer.length) :
    m.applyRegion buffer offset len =
      .ok (overlay m.key m.used offset (offset + len) buffer, ⟨m.key, m.used + len⟩) := by
  have hlen : ((buffer.drop offset).take len).length = len := by
    simp
    omega
  rw [applyRegion, if_pos h]
  simp only [apply, hlen]
  refine congrArg (fun b => Except.ok (b, _)) ?_
  apply List.ext_getElem
  · simp
    omega
  · -- A byte comes from before the region, from the masked region or from after it.
    intro i h₁ h₂
    have hfront : min offset buffer.length = offset := by omega
    have hregion : min len (buffer.length - offset) = len := by omega
    simp only [overlay, List.getElem_mapIdx, List.getElem_append, List.length_append,
      List.length_take, List.length_mapIdx, List.length_drop, List.getElem_take,
      List.getElem_drop, hfront, hregion]
    by_cases hlow : i < offset
    · rw [dif_pos (by omega), dif_pos hlow, if_neg (by omega)]
    · have hat : offset + (i - offset) = i := by omega
      by_cases hhigh : i < offset + len
      · rw [dif_pos hhigh, dif_neg hlow, if_pos ⟨by omega, hhigh⟩]
        simp only [hat]
      · have hpast : offset + len + (i - (offset + len)) = i := by omega
        rw [dif_neg hhigh, if_neg (by omega)]
        simp only [hpast]

end Mask

namespace Scene

theorem maskRegions_of_fits (m : Mask) {buffer : List UInt8} {sizes : List Nat} {offset : Nat}
    (h : offset + sizes.sum ≤ buffer.length) :
    maskRegions sizes offset m buffer =
      (Mask.overlay m.key m.used offset (offset + sizes.sum) buffer, .ok ()) := by
  induction sizes generalizing offset m buffer with
  | nil =>
    rw [maskRegions, List.sum_nil, Nat.add_zero, Mask.overlay_empty]
  | cons size sizes ih =>
    rw [List.sum_cons] at h
    have hrest : offset + size + sizes.sum ≤
        (Mask.overlay m.key m.used offset (offset + size) buffer).length := by
      rw [Mask.length_overlay]
      omega
    -- The next region starts where this one ends, in the buffer and in the key.
    rw [maskRegions, m.applyRegion_of_fits (by omega)]
    simp only
    rw [ih ⟨m.key, m.used + size⟩ hrest, Mask.overlay_append, List.sum_cons]

/-- Whether the three regions lie in the buffer. -/
def Fits (buffer : List UInt8) : Prop :=
  dataStart + (regionSizes buffer).sum ≤ buffer.length

theorem mask_of_fits (key : UInt32) {buffer : List UInt8} (h : Fits buffer) :
    (mask key buffer).buffer =
        Mask.overlay key 0 dataStart (dataStart + (regionSizes buffer).sum) buffer ∧
      (mask key buffer).report.outcome = .ok () := by
  unfold mask
  split
  · next hkey => exact ⟨by rw [hkey, Mask.overlay_zero], rfl⟩
  · have hlong : ¬ buffer.length < regionSizesAt + 12 := by
      unfold Fits dataStart at h
      unfold regionSizesAt
      omega
    rw [if_neg hlong]
    simp only [maskRegions_of_fits (Mask.ofKey key) h]
    exact ⟨rfl, rfl⟩

/-- A buffer whose regions fit, masked: all bytes of the regions. -/
theorem buffer_mask (key : UInt32) {buffer : List UInt8} (h : Fits buffer) :
    (mask key buffer).buffer =
      Mask.overlay key 0 dataStart (dataStart + (regionSizes buffer).sum) buffer :=
  (mask_of_fits key h).1

theorem report_mask (key : UInt32) {buffer : List UInt8} (h : Fits buffer) :
    (mask key buffer).report.outcome = .ok () :=
  (mask_of_fits key h).2

theorem regionSizes_congr {a b : List UInt8} (h : a.take dataStart = b.take dataStart) :
    regionSizes a = regionSizes b := by
  -- The sizes are in the header, and nothing else of the buffer matters for them.
  have hword : ∀ start, start + 4 ≤ dataStart →
      (a.drop start).take 4 = (b.drop start).take 4 := by
    intro start hstart
    have hshort := congrArg (fun l => (l.drop start).take 4) h
    simp only [List.drop_take, List.take_take] at hshort
    rwa [Nat.min_eq_left (by omega)] at hshort
  simp only [regionSizes, List.map_cons, List.map_nil]
  rw [hword _ (by decide), hword _ (by decide), hword _ (by decide)]

theorem take_mask (key : UInt32) {buffer : List UInt8} (h : Fits buffer) :
    ((mask key buffer).buffer).take dataStart = buffer.take dataStart := by
  rw [buffer_mask key h, Mask.take_overlay _ _ _ _ (Nat.le_refl _)]

theorem length_mask (key : UInt32) {buffer : List UInt8} (h : Fits buffer) :
    ((mask key buffer).buffer).length = buffer.length := by
  rw [buffer_mask key h, Mask.length_overlay]

theorem fits_mask (key : UInt32) {buffer : List UInt8} (h : Fits buffer) :
    Fits (mask key buffer).buffer := by
  unfold Fits
  rw [regionSizes_congr (take_mask key h), length_mask key h]
  exact h

/-- Where the plain regions are zero at a multiple of four, the masked ones show
the key. -/
theorem key_standsAt_mask (key : UInt32) {buffer : List UInt8} {n : Nat} (h : Fits buffer)
    (hzero : StandsAt [0, 0, 0, 0] buffer (dataStart + 4 * n))
    (hsizes : 4 * n + 4 ≤ (regionSizes buffer).sum) :
    StandsAt (leBytes 4 key.toNat) (mask key buffer).buffer (dataStart + 4 * n) := by
  have hle := hzero.le
  simp only [List.length_cons, List.length_nil] at hle
  have hplain : ∀ i (h : dataStart + 4 * n + i < buffer.length), i < 4 →
      buffer[dataStart + 4 * n + i] = 0 := by
    intro i hin hi
    have hget : ((buffer.drop (dataStart + 4 * n)).take 4)[i]? = [0, 0, 0, 0][i]? :=
      congrArg (fun l : List UInt8 => l[i]?) hzero.take_drop
    rw [List.getElem?_take_of_lt hi, List.getElem?_drop,
      List.getElem?_eq_getElem hin] at hget
    obtain rfl | rfl | rfl | rfl : i = 0 ∨ i = 1 ∨ i = 2 ∨ i = 3 := by omega
    all_goals exact Option.some.inj hget
  refine standsAt_of_take_drop ?_ ?_
  · rw [length_mask key h, length_leBytes]
    exact hle
  · rw [length_leBytes, buffer_mask key h, ← Mask.keyBytes_eq]
    apply List.ext_getElem
    · simp
      omega
    · intro i h₁ h₂
      have hi : i < 4 := by simpa using h₂
      have hphase : 0 + (dataStart + 4 * n + i - dataStart) = 4 * n + i := by omega
      simp only [List.getElem_take, List.getElem_drop, Mask.overlay, List.getElem_mapIdx,
        List.getElem_map, List.getElem_range]
      rw [if_pos ⟨by omega, by omega⟩, hplain i (by omega) hi, hphase, Mask.keyByte_add_mul,
        UInt8.zero_xor]

end Scene

end SceneScript
