import SceneScript.Proofs.Resources.TwoBundles
import SceneScript.Proofs.Resources.TwoScenes

/-
  A scene under a key. A reader is not told the key: it takes the key from the
  place where the first descriptor keeps the offset of its value. That offset
  is zero in a plain scene, and its place is a multiple of four bytes into the
  masked regions, so exactly the key shows through (`ShowsKey.shownKey_mask`).
  The plain scene shows the key zero. Hence a buffer and its masked form are
  read alike, whether as a scene or with a fault
  (`Scene.outcome_parse_mask`).
-/

namespace SceneScript

namespace Scene

/-- A buffer through which a key shows once it is masked: its regions fit, and
there is a descriptor, which has a zero for the offset of its value. -/
structure ShowsKey (b : List UInt8) : Prop where
  fits : Fits b
  described : 12 ≤ leNat (window b 16 4)
  zero : leNat (window b (dataStart + leNat (window b 12 4) + 8) 4) = 0

/-- Masking a buffer whose regions fit leaves its header as it is. -/
theorem sameAt_mask (key : UInt32) {b : List UInt8} (h : Fits b) :
    SameAt (fun i => i < dataStart) b (mask key b).buffer := by
  refine ⟨Nat.le_of_eq (length_mask key h).symm, fun i _ hi => ?_⟩
  rw [← List.getElem?_take_of_lt hi, ← take_mask key h, List.getElem?_take_of_lt hi]

namespace ShowsKey

variable {b : List UInt8} {h : Header}

theorem some_descriptor (hb : ShowsKey b) (hs : h.StandsIn b) : h.descriptorSize ≠ 0 := by
  intro hzero
  have hsize := toNat_leWord32_window b 16
  have hdescribed := hb.described
  rw [← hs.descriptorSize, hzero, UInt32.toNat_zero] at hsize
  omega

theorem descriptorsAt_eq (hs : h.StandsIn b) :
    h.descriptorsAt = dataStart + leNat (window b 12 4) := by
  rw [Header.descriptorsAt, hs.size, toNat_leWord32_window]

/-- The plain buffer shows the key zero. -/
theorem shownKey_plain (hb : ShowsKey b) (hs : h.StandsIn b) : h.shownKey b = 0 := by
  rw [Header.shownKey, if_neg (hb.some_descriptor hs), descriptorsAt_eq hs, leWord32, hb.zero]
  rfl

/-- The masked buffer shows the key it is under. -/
theorem shownKey_mask (hb : ShowsKey b) (hs : h.StandsIn b) (key : UInt32) :
    h.shownKey (mask key b).buffer = key := by
  have hfits := hb.fits
  have hdescribed := hb.described
  have hplace : h.descriptorsAt + 8 = dataStart + 4 * (h.count.toNat + 2) := by
    rw [Header.descriptorsAt]
    omega
  have hsize : 4 * h.count.toNat = leNat (window b 12 4) := by
    rw [hs.size, toNat_leWord32_window]
  have hsum := sum_regionSizes b
  have hend : dataStart + 4 * (h.count.toNat + 2) + 4 ≤ b.length := by
    unfold Fits at hfits
    omega
  -- Four bytes that spell zero stand where the key will be.
  have hzeros : StandsAt [0, 0, 0, 0] b (dataStart + 4 * (h.count.toNat + 2)) := by
    have hzero := hb.zero
    rw [← descriptorsAt_eq hs, hplace] at hzero
    refine standsAt_of_take_drop hend ?_
    have hlen : (window b (dataStart + 4 * (h.count.toNat + 2)) 4).length = 4 := by
      simp [window]
      omega
    have hbytes := leBytes_leNat (window b (dataStart + 4 * (h.count.toNat + 2)) 4)
    rw [hlen, hzero] at hbytes
    exact hbytes.symm
  have hshown := (key_standsAt_mask key hfits hzeros (by omega)).take_drop
  rw [length_leBytes] at hshown
  rw [Header.shownKey, if_neg (hb.some_descriptor hs), hplace, window, hshown, leWord32_leBytes]

end ShowsKey

/-- A buffer and its masked form are read alike. -/
theorem agree_parse_mask (key : UInt32) {b : List UInt8} (hb : ShowsKey b) :
    Agree False Eq (parse b).outcome (parse (mask key b).buffer).outcome := by
  have hlen : (mask key b).buffer.length = b.length := length_mask key hb.fits
  have hsame := sameAt_mask key hb.fits
  have hheader : ∀ i, Header.places i → i < dataStart := by
    intro i hi
    unfold Header.places at hi
    unfold dataStart
    omega
  refine (agree_parse_of_headers hsame hheader ?_).mono (by omega) (fun _ _ => id)
  intro h h' hs hs' hl _
  -- All of the header is plain, so both headers say the same.
  have hversion : h.version = h'.version := by
    have hlong : 32 ≤ b.length := hs.long
    rw [hs.version, hs'.version, hsame.window (fun i _ hi => Nat.lt_trans hi (by decide))
      (by omega)]
  obtain rfl : h = h' := by
    cases h
    cases h'
    obtain ⟨rfl, rfl⟩ := hl
    exact congrArg (Header.mk · _ _) hversion
  -- Unmasked under the keys they show, both buffers are the plain one.
  rw [hb.shownKey_plain hs, hb.shownKey_mask hs]
  refine Agree.traced (R := fun _ _ => True) ?_ (fun _ _ _ _ => ?_)
  · rw [report_mask 0 hb.fits, report_mask key (fits_mask key hb.fits)]
    exact .ok trivial
  · rw [mask_mask key b]
    exact .of_eq rfl

/-- **A key makes no difference.** A buffer whose regions fit, with a
descriptor that keeps a zero for a key to show through, can be put under any
key; it is still read as the same scene or with the same fault, and so is
whatever is listed from it. -/
theorem outcome_parse_mask (key : UInt32) {b : List UInt8} (hb : ShowsKey b) :
    (mask key b).report.outcome = .ok () ∧
      (parse (mask key b).buffer).outcome = (parse b).outcome ∧
      ∀ (labels vocabulary : List UInt8) (s : Settings),
        ((⟨(mask key b).buffer, labels, vocabulary⟩ : Bundle).listing s).outcome =
          ((⟨b, labels, vocabulary⟩ : Bundle).listing s).outcome := by
  have hscene := agree_parse_mask key hb
  refine ⟨report_mask key hb.fits, hscene.eq.symm, fun labels vocabulary s => ?_⟩
  have hlisting : Agree False Eq ((⟨b, labels, vocabulary⟩ : Bundle).listing s).outcome
      ((⟨(mask key b).buffer, labels, vocabulary⟩ : Bundle).listing s).outcome :=
    Bundle.agree_listing (Bundle.agree_statementsBy_of_eq (.of_eq rfl) (.of_eq rfl) hscene)
  exact hlisting.eq.symm

/-- Two instructions, a descriptor and a half, and the value of the first
descriptor. -/
def brokenOff : List UInt8 :=
  [0x59, 0x53, 0x54, 0x42, 0xE1, 1, 0, 0, 2, 0, 0, 0, 8, 0, 0, 0, 18, 0, 0, 0, 3, 0, 0, 0,
    0, 0, 0, 0, 0, 0, 0, 0, 7, 1, 0, 0, 8, 0, 0, 0, 5, 0, 3, 1, 3, 0, 0, 0, 0, 0, 0, 0,
    6, 0, 3, 1, 1, 0, 0x42, 1, 0]

/-- The second descriptor ends behind the buffer, under a key as well as
without one. -/
theorem outcome_parse_mask_brokenOff :
    ShowsKey brokenOff ∧ (mask 0x2F5CA1E3 brokenOff).buffer ≠ brokenOff ∧
      (parse (mask 0x2F5CA1E3 brokenOff).buffer).outcome =
        .error (.outOfBounds 0x3C 4 0x3D) := by
  have hshows : ShowsKey brokenOff := ⟨by unfold Fits; decide, by decide, by decide⟩
  refine ⟨hshows, by decide, ?_⟩
  rw [(outcome_parse_mask 0x2F5CA1E3 hshows).2.1]
  decide

end Scene

end SceneScript
