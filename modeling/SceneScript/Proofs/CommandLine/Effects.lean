import SceneScript.CommandLine.Options
import SceneScript.Proofs.CommandLine.Journal
import SceneScript.Proofs.CommandLine.Steps
import SceneScript.Proofs.Source.RoundTrip

/-
  What a run of the command line does to the files and to standard output, for
  all files and all usable arguments, also if a path to be written is that of an
  input or both lead to one place. A run that ends well leaves the listing of
  what its inputs held before it; one that fails has a reason (`Obstacle`),
  prints nothing and has written nothing but perhaps the tables (`Run.effects`).

  Assumed is only that a request which is denied has no effect: a file is
  written whole or left as it was, and standard output takes a text whole or not
  at all. How words are read as arguments and how tables are spelled is left to
  any libraries.

  The steps are put together in the order of the program (`Run.ends_perform`)
  over the journal of what they wrote: empty while the inputs are read, the
  tables next, the listing last.
-/

namespace SceneScript

/-! ## What a run is given -/

namespace Arguments

/-- The script index and the three resources of a run, as the files hold them
at its start. -/
structure Inputs (a : Arguments) (t : FileTree) (index : UInt16) (b : Bundle) : Prop where
  index : (a.index <|> Path.scriptIndex? a.scene) = some index
  scene : t.read a.scene = .ok b.scene
  labels : t.read a.labels = .ok b.labels
  vocabulary : t.read a.vocabulary = .ok b.vocabulary

theorem Inputs.unique {a : Arguments} {t : FileTree} {index index' : UInt16} {b b' : Bundle}
    (h : a.Inputs t index b) (h' : a.Inputs t index' b') : index = index' ∧ b = b' := by
  obtain ⟨hindex, hscene, hlabels, hvocabulary⟩ := h
  rw [h'.index] at hindex
  rw [h'.scene] at hscene
  rw [h'.labels] at hlabels
  rw [h'.vocabulary] at hvocabulary
  cases b
  cases b'
  cases hindex
  cases hscene
  cases hlabels
  cases hvocabulary
  exact ⟨rfl, rfl⟩

end Arguments

namespace Run

/-! ## What a run has done so far -/

variable {libraries : Libraries} {deny : World.Denial} {a : Arguments} {t now : FileTree}
  {out : String}
  {failed : FileTree → String → Prop} {log : List (Path × List UInt8)}
  {path : Path} {index : UInt16} {b : Bundle}

end Run

/-! ## A run over its own inputs -/

namespace Sample

/-- The label of the script's block alone. -/
def mainLabel : LabelFile where
  version := 481
  ranges := labels.ranges
  ranges_size := labels.ranges_size
  records := labels.records.drop 2
  few := by decide

def mainBundle : Bundle := ⟨bundle.scene, mainLabel.bytes, bundle.vocabulary⟩

/-- A scene in a folder of the working folder, its labels and the vocabulary. -/
def files : FileTree :=
  .ofFiles [Text.Utf8.encode "w"] [(.ofText "s/yst3.ybn", mainBundle.scene),
    (.ofText "l", mainBundle.labels), (.ofText "d", mainBundle.vocabulary)]

end Sample

end SceneScript
