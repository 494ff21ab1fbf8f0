import SceneScript.Proofs.Nesting.Placing

/-
  Nesting as a run over one stream. A label is nothing but a statement that
  nobody wrote: with the labels of a script written out before the statements
  they point at (`withLabels`), nesting places one statement after the other
  and does nothing else. `nest_outcome` says so for every list of labels by
  ascending offset, and what is proved of `placeAll` holds of every script.
-/

namespace SceneScript

namespace Nesting

/-- The label statements that stand before statement number `i`, in the order
of the list. -/
def labelsAt (labels : List Label) (i : Nat) : List Statement :=
  (labels.filter (isDue i)).map (fun l => Statement.ofLabel l.name)

/-- Statements from number `i` on, each with its labels before it; the labels
past the last statement are those of the number that follows it. -/
def withLabels (labels : List Label) : Nat → List Statement → List Statement
  | i, [] => labelsAt labels i
  | i, s :: rest => labelsAt labels i ++ s :: withLabels labels (i + 1) rest

/-- Place statements one after the other, up to the first fault. -/
def placeAll : List Statement → List Statement → Except Fault (List Statement)
  | [], stack => .ok stack
  | s :: rest, stack => (place s stack).bind (placeAll rest)

/-- By ascending offset. -/
def Sorted (labels : List Label) : Prop :=
  labels.Pairwise (fun a b => a.offset ≤ b.offset)

theorem placeAll_append (first second stack : List Statement) :
    placeAll (first ++ second) stack = (placeAll first stack).bind (placeAll second) := by
  induction first generalizing stack with
  | nil => rfl
  | cons s rest ih =>
    simp only [List.cons_append, placeAll]
    cases place s stack with
    | error f => rfl
    | ok next => exact ih next

theorem placeAll_labels (labels : List Label) (stack : List Statement) :
    placeAll (labels.map (fun l => Statement.ofLabel l.name)) stack =
      .ok ((labels.map (fun l => Statement.ofLabel l.name)).reverse ++ stack) := by
  induction labels generalizing stack with
  | nil => rfl
  | cons l rest ih =>
    have hplace : place (Statement.ofLabel l.name) stack =
        .ok (Statement.ofLabel l.name :: stack) := place_of_stays rfl stack
    simp only [List.map_cons, placeAll, hplace, Except.bind]
    rw [ih]
    simp

/-! ## Labels by ascending offset -/

theorem isDue_iff {i : Nat} {l : Label} : isDue i l = true ↔ l.offset.toNat = i := by
  simp [isDue]

/-- The labels due next are the first of the list, and all of them. -/
theorem span_isDue {labels : List Label} {i : Nat} (hs : Sorted labels)
    (hi : ∀ l ∈ labels, i ≤ l.offset.toNat) :
    labels.takeWhile (isDue i) = labels.filter (isDue i) ∧
      labels.dropWhile (isDue i) = labels.filter (fun l => !isDue i l) := by
  induction labels with
  | nil => exact ⟨rfl, rfl⟩
  | cons l rest ih =>
    obtain ⟨hl, hrest⟩ := List.pairwise_cons.mp hs
    by_cases hdue : isDue i l = true
    · obtain ⟨htake, hdrop⟩ := ih hrest (fun x hx => hi x (List.mem_cons_of_mem l hx))
      exact ⟨by simp [hdue, htake], by simp [hdue, hdrop]⟩
    · -- The first label that is not due is past `i`, and so are all that follow it.
      have hlater : ∀ x ∈ rest, ¬ isDue i x = true := by
        intro x hx hx'
        have hle := UInt32.le_iff_toNat_le.mp (hl x hx)
        have hil := hi l List.mem_cons_self
        rw [isDue_iff] at hdue hx'
        omega
      have hall : rest.filter (fun l => !isDue i l) = rest :=
        List.filter_eq_self.mpr (fun x hx => by simpa using hlater x hx)
      exact ⟨by simp [hdue, List.filter_eq_nil_iff.mpr hlater], by simp [hdue, hall]⟩

/-- What is left when the labels due at `i` are taken off. -/
theorem dropWhile_isDue {labels : List Label} {i : Nat} (hs : Sorted labels)
    (hi : ∀ l ∈ labels, i ≤ l.offset.toNat) :
    Sorted (labels.dropWhile (isDue i)) ∧
      (∀ l ∈ labels.dropWhile (isDue i), i + 1 ≤ l.offset.toNat) ∧
      ∀ j, i + 1 ≤ j → labelsAt (labels.dropWhile (isDue i)) j = labelsAt labels j := by
  rw [(span_isDue hs hi).2]
  refine ⟨hs.filter _, ?_, ?_⟩
  · intro l hl
    obtain ⟨hmem, hne⟩ := List.mem_filter.mp hl
    have hge := hi l hmem
    have hne' : l.offset.toNat ≠ i := by simpa [isDue] using hne
    omega
  · intro j hj
    rw [labelsAt, labelsAt, List.filter_filter]
    refine congrArg (List.map _) (List.filter_congr ?_)
    intro l _
    by_cases hlj : isDue j l = true
    · have hli : isDue i l = false := by
        rw [isDue_iff] at hlj
        simp only [isDue, beq_eq_false_iff_ne]
        omega
      rw [hlj, hli]
      rfl
    · simp [hlj]

theorem withLabels_congr {labels labels' : List Label} (flat : List Statement) {i : Nat}
    (h : ∀ j, i ≤ j → labelsAt labels j = labelsAt labels' j) :
    withLabels labels i flat = withLabels labels' i flat := by
  induction flat generalizing i with
  | nil => exact h i (Nat.le_refl i)
  | cons s rest ih =>
    have hrest := ih (i := i + 1) (fun j hj => h j (by omega))
    rw [withLabels, withLabels, h i (Nat.le_refl i), hrest]

theorem fresh_withLabels {labels : List Label} {flat : List Statement} (i : Nat)
    (hf : ∀ s ∈ flat, s.Fresh) : ∀ s ∈ withLabels labels i flat, s.Fresh := by
  have hlabel : ∀ j, ∀ s ∈ labelsAt labels j, s.Fresh := by
    intro j s hs
    obtain ⟨l, _, rfl⟩ := List.mem_map.mp hs
    exact Statement.fresh_ofLabel l.name
  induction flat generalizing i with
  | nil => exact hlabel i
  | cons s rest ih =>
    intro x hx
    rcases List.mem_append.mp hx with hx | hx
    · exact hlabel i x hx
    · rcases List.mem_cons.mp hx with rfl | hx
      · exact hf x List.mem_cons_self
      · exact ih (i + 1) (fun y hy => hf y (List.mem_cons_of_mem s hy)) x hx

/-! ## The run over the stream -/

theorem placeLabels_stack {n : Nesting} (hs : Sorted n.pending)
    (hn : ∀ l ∈ n.pending, n.count ≤ l.offset.toNat) :
    n.placeLabels.stack = (labelsAt n.pending n.count).reverse ++ n.stack := by
  simp only [placeLabels, labelsAt, (span_isDue hs hn).1]

/-- A run goes on after its first statement, if that is placed. -/
theorem pushAll_cons_eq_ok {s : Statement} {rest : List Statement} {n m : Nesting} :
    pushAll (s :: rest) n = .ok m ↔ ∃ stack, place s n.placeLabels.stack = .ok stack ∧
      pushAll rest ⟨stack, n.count + 1, n.placeLabels.pending⟩ = .ok m := by
  simp only [pushAll, push]
  cases place s n.placeLabels.stack with
  | error f => simp
  | ok stack =>
    simp only [Except.ok.injEq, exists_eq_left']
    rfl

theorem pushAll_outcome (flat : List Statement) (n : Nesting) (hs : Sorted n.pending)
    (hn : ∀ l ∈ n.pending, n.count ≤ l.offset.toNat) :
    (pushAll flat n).bind (fun m => m.finish.outcome) =
      (placeAll (withLabels n.pending n.count flat) n.stack).map List.reverse := by
  -- By induction on the statements. No pending label is behind the count, so those that are
  -- due come first, and what is left is again sorted and not behind.
  induction flat generalizing n with
  | nil =>
    have hlabels : placeAll (labelsAt n.pending n.count) n.stack =
        .ok ((labelsAt n.pending n.count).reverse ++ n.stack) := placeAll_labels _ _
    simp only [pushAll, withLabels, hlabels, Except.bind, Except.map, finish,
      placeLabels_stack hs hn]
  | cons s rest ih =>
    obtain ⟨hs', hn', hsame⟩ := dropWhile_isDue hs hn
    have hlabels : placeAll (labelsAt n.pending n.count) n.stack =
        .ok ((labelsAt n.pending n.count).reverse ++ n.stack) := placeAll_labels _ _
    rw [withLabels, placeAll_append, hlabels]
    simp only [pushAll, push, Except.bind, placeAll]
    rw [placeLabels_stack hs hn]
    cases place s ((labelsAt n.pending n.count).reverse ++ n.stack) with
    | error f => rfl
    | ok stack =>
      have hrest := ih ⟨stack, n.count + 1, n.pending.dropWhile (isDue n.count)⟩ hs' hn'
      rw [withLabels_congr rest hsame] at hrest
      exact hrest

end Nesting

/-- Nesting places the statements of the script, its labels among them. -/
theorem nest_outcome {labels : List Label} (flat : List Statement)
    (hs : Nesting.Sorted labels) :
    (nest labels flat).outcome =
      (Nesting.placeAll (Nesting.withLabels labels 0 flat) []).map List.reverse := by
  have hrun := Nesting.pushAll_outcome flat (Nesting.ofLabels labels) hs
    (fun _ _ => Nat.zero_le _)
  rw [nest, Traced.outcome_bind]
  exact hrun

end SceneScript
