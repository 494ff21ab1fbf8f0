import Mathlib.Data.List.Forall2
import SceneScript.Proofs.Nesting.Labels
import SceneScript.Proofs.Nesting.OpenBlocks
import SceneScript.Proofs.Nesting.Shape

/-
  What nesting leaves alone. A closer knows nothing of the block it stands in:
  it takes whatever opener of its kind is topmost. But statements that find all
  their openers among themselves, when they are nested alone, find the same
  openers on top of any other stack, whatever that holds open. They are nested
  there as they are alone, and nothing below them is changed (`pushAll_local`).

  Alone, a return without an opener makes an empty frame. From then on that
  frame is at the bottom of the stack (`OnFrame`), so it is seen at the end
  whether there was one.
-/

namespace SceneScript

/-- `m` is `l`, a number of statements further on. -/
structure Label.Moved (distance : Nat) (l m : Label) : Prop where
  name : m.name = l.name
  offset : m.offset.toNat = l.offset.toNat + distance

namespace Nesting

/-! ## Empty frames stay -/

/-- The bottom of a stack is an empty frame. -/
def OnFrame (stack : List Statement) : Prop :=
  ∃ above frame, stack = above ++ [frame] ∧ frame.isFrame = true

theorem OnFrame.append {stack : List Statement} (h : OnFrame stack) (above : List Statement) :
    OnFrame (above ++ stack) := by
  obtain ⟨rest, frame, rfl, hframe⟩ := h
  exact ⟨above ++ rest, frame, (List.append_assoc _ _ _).symm, hframe⟩

theorem open?_of_isFrame {s : Statement} (h : s.isFrame = true) : s.open? = none := by
  have hclosed : s.closed = true := by
    simp only [Statement.isFrame, Statement.isClosed, Bool.and_eq_true] at h
    exact h.1
  rw [Statement.open?, if_pos hclosed]

/-- No statement takes the bottom frame away, but for one that puts it into
another. -/
theorem onFrame_place {s : Statement} {stack out : List Statement} (h : OnFrame stack)
    (hp : place s stack = .ok out) : OnFrame out := by
  cases placing_of_ok hp with
  | stays _ => exact h.append [s]
  | framed _ _ _ => exact ⟨[], _, rfl, rfl⟩
  | @closes b above below opener _ hopen _ =>
    obtain ⟨rest, frame, hstack, hframe⟩ := h
    -- A frame is no opener, so there is something below the opener that was found.
    rcases List.eq_nil_or_concat below with rfl | ⟨between, last, rfl⟩
    · have hlast : opener = frame := (List.append_inj' hstack rfl).2 |> List.singleton_inj.mp
      rw [hlast, open?_of_isFrame hframe] at hopen
      cases hopen
    · rw [List.concat_eq_append, ← List.cons_append, ← List.append_assoc] at hstack
      obtain rfl : last = frame := List.singleton_inj.mp (List.append_inj' hstack rfl).2
      refine ⟨s.leftAbove ++ opener.close (s.bodyFrom above) :: between, last, ?_, hframe⟩
      simp

theorem onFrame_pushAll {flat : List Statement} {n last : Nesting} (h : OnFrame n.stack)
    (hrun : pushAll flat n = .ok last) : OnFrame last.stack := by
  induction flat generalizing n with
  | nil =>
    cases hrun
    exact h
  | cons s rest ih =>
    obtain ⟨stack, hp, hrest⟩ := pushAll_cons_eq_ok.mp hrun
    exact ih (onFrame_place (h.append _) hp) hrest

/-! ## On top of another stack -/

/-- A statement that is placed without an empty frame is placed in the same way
on top of anything. -/
theorem place_append {s : Statement} {stack out : List Statement} (hp : place s stack = .ok out)
    (hout : ¬ OnFrame out) (below : List Statement) :
    place s (stack ++ below) = .ok (out ++ below) := by
  cases placing_of_ok hp with
  | stays h => exact place_of_stays h (stack ++ below)
  | framed _ _ _ => exact absurd ⟨[], _, rfl, rfl⟩ hout
  | @closes b above rest opener h hopen habove =>
    rw [List.append_assoc, List.cons_append, place_of_closes h hopen habove, List.append_assoc,
      List.cons_append]

/-- `n` is `own` on top of `below`: its count is ahead by `base`, and so are its
labels, which others come after. -/
structure OnTop (below : List Statement) (base : Nat) (later : List Label) (own n : Nesting) :
    Prop where
  stack : n.stack = own.stack ++ below
  count : n.count = own.count + base
  pending : ∃ moved, n.pending = moved ++ later ∧ List.Forall₂ (Label.Moved base) own.pending moved

theorem isDue_moved {base count : Nat} {l m : Label} (h : l.Moved base m) :
    isDue (count + base) m = isDue count l := by
  rw [Bool.eq_iff_iff, isDue_iff, isDue_iff, h.offset]
  omega

/-- Labels that are moved are due when those they come from are. -/
theorem span_moved {base count : Nat} {own moved later : List Label}
    (h : List.Forall₂ (Label.Moved base) own moved)
    (hlater : ∀ l ∈ later, isDue (count + base) l = false) :
    ((moved ++ later).takeWhile (isDue (count + base))).map (·.name) =
        (own.takeWhile (isDue count)).map (·.name) ∧
      ∃ rest, (moved ++ later).dropWhile (isDue (count + base)) = rest ++ later ∧
        List.Forall₂ (Label.Moved base) (own.dropWhile (isDue count)) rest := by
  induction h with
  | nil =>
    cases later with
    | nil => exact ⟨rfl, [], rfl, .nil⟩
    | cons l later =>
      have hl := hlater l List.mem_cons_self
      exact ⟨by simp [hl], [], by simp [hl], .nil⟩
  | @cons l m own moved hl hrest ih =>
    obtain ⟨hnames, rest, hdrop, hmoved⟩ := ih
    have hsame : isDue (count + base) m = isDue count l := isDue_moved hl
    cases hdue : isDue count l with
    | true =>
      rw [hdue] at hsame
      refine ⟨?_, rest, ?_, ?_⟩
      · simp [hdue, hsame, hnames, hl.name]
      · simpa [hsame] using hdrop
      · simpa [hdue] using hmoved
    | false =>
      rw [hdue] at hsame
      refine ⟨by simp [hdue, hsame], m :: moved, by simp [hsame], ?_⟩
      simpa [hdue] using List.Forall₂.cons hl hrest

theorem OnTop.placeLabels {below : List Statement} {base : Nat} {later : List Label}
    {own n : Nesting} (h : OnTop below base later own n)
    (hlater : ∀ l ∈ later, n.count < l.offset.toNat) :
    OnTop below base later own.placeLabels n.placeLabels := by
  obtain ⟨hstack, hcount, moved, hpending, hmoved⟩ := h
  have hnot : ∀ l ∈ later, isDue (own.count + base) l = false := by
    intro l hl
    have hbeyond := hlater l hl
    rw [← hcount]
    simp only [isDue, beq_eq_false_iff_ne]
    omega
  obtain ⟨hnames, rest, hdrop, hrest⟩ := span_moved hmoved hnot
  have hlabels := congrArg (List.map Statement.ofLabel) hnames
  rw [List.map_map, List.map_map] at hlabels
  refine ⟨?_, hcount, rest, ?_, hrest⟩
  · show (List.map (Statement.ofLabel ∘ (·.name)) (n.pending.takeWhile _)).reverse ++ n.stack = _
    rw [hpending, hcount, hlabels, hstack, ← List.append_assoc]
    rfl
  · show n.pending.dropWhile _ = _
    rw [hpending, hcount, hdrop]

/-- Statements that make no empty frame alone are nested on top of anything as
they are alone. -/
theorem OnTop.pushAll {below : List Statement} {base : Nat} {later : List Label}
    {block : List Statement} {own n last : Nesting} (h : OnTop below base later own n)
    (hlater : ∀ l ∈ later, n.count + block.length ≤ l.offset.toNat)
    (hrun : pushAll block own = .ok last) (hlast : ¬ OnFrame last.stack) :
    ∃ m, Nesting.pushAll block n = .ok m ∧ OnTop below base later last m := by
  induction block generalizing own n with
  | nil =>
    cases hrun
    exact ⟨n, rfl, h⟩
  | cons s rest ih =>
    simp only [List.length_cons] at hlater
    obtain ⟨stack, hp, hrest⟩ := pushAll_cons_eq_ok.mp hrun
    obtain ⟨hstack, hcount, hpending⟩ := h.placeLabels (fun l hl => by have := hlater l hl; omega)
    -- A frame made here would still be there at the end.
    have hplace := place_append hp (fun hframe => hlast (onFrame_pushAll hframe hrest)) below
    rw [← hstack] at hplace
    have hnext : OnTop below base later ⟨stack, own.count + 1, own.placeLabels.pending⟩
        ⟨stack ++ below, n.count + 1, n.placeLabels.pending⟩ := by
      refine ⟨rfl, ?_, hpending⟩
      show n.count + 1 = own.count + 1 + base
      rw [h.count]
      omega
    obtain ⟨m, hm, htop⟩ := ih hnext (fun l hl => by have := hlater l hl; simp only; omega) hrest
    exact ⟨m, pushAll_cons_eq_ok.mpr ⟨_, hplace, hm⟩, htop⟩

/-- **Locality.** Let statements, with labels of their own by ascending offset,
be nested alone without a fault and without an empty frame. Then they are
nested in every state that has these labels to come at its count: what they
leave alone is put on the stack, and nothing that was there is changed. -/
theorem pushAll_local {block : List Statement} {own : List Label} {last : Nesting}
    (hsorted : Sorted own) (hinside : ∀ l ∈ own, l.offset.toNat < block.length)
    (hrun : pushAll block (ofLabels own) = .ok last)
    (hframes : ∀ t ∈ last.stack, t.isFrame = false) {n : Nesting} {moved later : List Label}
    (hpending : n.pending = moved ++ later) (hmoved : List.Forall₂ (Label.Moved n.count) own moved)
    (hlater : ∀ l ∈ later, n.count + block.length ≤ l.offset.toNat) :
    pushAll block n = .ok ⟨last.stack ++ n.stack, n.count + block.length, later⟩ := by
  have hlast : ¬ OnFrame last.stack := by
    rintro ⟨above, frame, hstack, hframe⟩
    have hmem : frame ∈ last.stack := hstack ▸ List.mem_append_right above List.mem_cons_self
    rw [hframes frame hmem] at hframe
    cases hframe
  have htop : OnTop n.stack n.count later (ofLabels own) n :=
    ⟨rfl, (Nat.zero_add _).symm, moved, hpending, hmoved⟩
  obtain ⟨m, hm, hstack, hcount, rest, hrest, hleft⟩ := htop.pushAll hlater hrun hlast
  -- All labels of the statements point before one of them, so none is left.
  obtain ⟨hlength, hnone⟩ := pending_pushAll hsorted (fun _ _ => Nat.zero_le _) hrun
  have hlength' : last.count = block.length := by rw [hlength, ofLabels, Nat.zero_add]
  have hused : last.pending = [] := by
    rw [hnone, hlength']
    refine List.filter_eq_nil_iff.mpr (fun l hl => ?_)
    simpa using hinside l hl
  rw [hused] at hleft
  obtain rfl := List.forall₂_nil_left_iff.mp hleft
  rw [hm]
  obtain ⟨stack, count, pending⟩ := m
  simp only at hstack hcount hrest
  rw [hstack, hcount, hrest, hlength', Nat.add_comm, List.nil_append]

/-- A label's block with a loop that ends over an open conditional, and then a
label and a conditional that stay open. -/
def innerScript : List Statement :=
  [.loop, .conditional, .loopEnd, .word, .alternative, .wordReturn, .labelReturn,
    .conditional].map Statement.ofKeyword

def innerLabels : List Label := [⟨"SUB", 0, 0, 0⟩, ⟨"MARK", 1, 7, 0⟩]

def outerLabels : List Label :=
  [⟨"MAIN", 2, 0, 0⟩, ⟨"SUB", 0, 3, 0⟩, ⟨"MARK", 1, 10, 0⟩, ⟨"NEXT", 3, 11, 0⟩]

/-- A block of each kind is open, the labels of the script above come next. -/
def outerState : Nesting :=
  ([.conditional, .loop, .word].map Statement.ofKeyword).foldl (fun n s => (n.push s).1)
    (ofLabels outerLabels)

theorem pushAll_local_inner :
    Reachable outerLabels outerState ∧
      openBlocks outerState.stack = [.word, .loop, .conditional, .label] ∧
      ∃ last, pushAll innerScript (ofLabels innerLabels) = .ok last ∧
        openBlocks last.stack = [.conditional, .label] ∧
        pushAll innerScript outerState =
          .ok ⟨last.stack ++ outerState.stack, 11, [⟨"NEXT", 3, 11, 0⟩]⟩ := by
  have hsorted : Sorted innerLabels := by
    unfold Sorted innerLabels
    decide
  have hmoved : List.Forall₂ (Label.Moved outerState.count) innerLabels
      [⟨"SUB", 0, 3, 0⟩, ⟨"MARK", 1, 10, 0⟩] :=
    .cons ⟨rfl, rfl⟩ (.cons ⟨rfl, rfl⟩ .nil)
  refine ⟨Reachable.pushEach .start (Statement.fresh_ofKeywords _), rfl, _, rfl, rfl, ?_⟩
  exact pushAll_local hsorted (by decide) rfl (by decide) rfl hmoved (by decide)

end Nesting

end SceneScript
