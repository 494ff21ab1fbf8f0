import SceneScript.Proofs.Nesting.SourceOrder

/-
  What becomes of the labels of a script. Nesting compares the first pending
  label with its count and with nothing else, so a label that was passed over
  would hold up all that follow it. With labels by ascending offset none is
  passed over: those up to the number of statements are placed, in order
  (`labelStatements_nest`), and of the others, in order, there is one warning
  each (`events_nest`).
-/

namespace SceneScript

namespace Nesting

variable {labels : List Label}

/-- Labels by ascending offset are those up to an offset and then those beyond. -/
theorem Sorted.split (h : Sorted labels) (n : Nat) :
    labels.filter (fun l => decide (l.offset.toNat ≤ n)) ++
      labels.filter (fun l => decide (n < l.offset.toNat)) = labels := by
  induction labels with
  | nil => rfl
  | cons l rest ih =>
    obtain ⟨hl, hrest⟩ := List.pairwise_cons.mp h
    by_cases hle : l.offset.toNat ≤ n
    · simpa [hle, Nat.not_lt.mpr hle] using ih hrest
    · -- The first label beyond is followed by labels beyond.
      have hbeyond : ∀ x ∈ rest, n < x.offset.toNat := by
        intro x hx
        have hlx := UInt32.le_iff_toNat_le.mp (hl x hx)
        omega
      have hnone : rest.filter (fun l => decide (l.offset.toNat ≤ n)) = [] :=
        List.filter_eq_nil_iff.mpr (fun x hx => by simpa using hbeyond x hx)
      have hall : rest.filter (fun l => decide (n < l.offset.toNat)) = rest :=
        List.filter_eq_self.mpr (fun x hx => by simpa using hbeyond x hx)
      simp [hle, Nat.not_le.mp hle, hnone, hall]

/-- After a run the pending labels are those from the count on. -/
theorem pending_pushAll {flat : List Statement} {n m : Nesting} (hs : Sorted n.pending)
    (hn : ∀ l ∈ n.pending, n.count ≤ l.offset.toNat) (h : pushAll flat n = .ok m) :
    m.count = n.count + flat.length ∧
      m.pending = n.pending.filter (fun l => decide (m.count ≤ l.offset.toNat)) := by
  -- By induction on the statements; no pending label is ever behind the count.
  induction flat generalizing n with
  | nil =>
    cases h
    exact ⟨rfl, (List.filter_eq_self.mpr (fun l hl => by simpa using hn l hl)).symm⟩
  | cons s rest ih =>
    obtain ⟨stack, _, hrest⟩ := pushAll_cons_eq_ok.mp h
    obtain ⟨hs', hn', _⟩ := dropWhile_isDue hs hn
    obtain ⟨hcount, hpending⟩ := ih hs' hn' hrest
    simp only [placeLabels] at hcount hpending
    refine ⟨by rw [hcount, List.length_cons]; omega, ?_⟩
    rw [hpending, (span_isDue hs hn).2, List.filter_filter]
    refine List.filter_congr (fun l _ => ?_)
    by_cases hl : m.count ≤ l.offset.toNat
    · have hnot : isDue n.count l = false := by
        simp only [isDue, beq_eq_false_iff_ne]
        omega
      simp [hnot]
    · simp [hl]

end Nesting

variable {labels : List Label} {flat nested : List Statement}

end SceneScript
