import SceneScript.Settings
import SceneScript.Statement.Flat
import SceneScript.Statement.Listing
import SceneScript.Statement.Nesting

/-
  The three resources of a script and the listing made from them. The
  vocabulary is read first, then the labels, then the scene; nothing is
  written before all three have been read.
-/

namespace SceneScript

/-- The bytes of the three resources. -/
structure Bundle where
  scene : List UInt8
  labels : List UInt8
  vocabulary : List UInt8
  deriving DecidableEq, Repr

namespace Bundle

/-- The nested statements of a script, its text read by `d`. -/
def statementsBy (b : Bundle) (d : TextDecoder) (scriptIndex : UInt16) :
    Traced (List Statement) := do
  let vocabulary ← Vocabulary.parse d b.vocabulary
  let index ← LabelIndex.parse d b.labels
  let labels := index.ofScript scriptIndex
  let scene ← Scene.parse b.scene
  Traced.report (.resourcesRead scriptIndex scene.instructions.length
    scene.attributes.length labels.length)
  let flat ← scene.flatStatements vocabulary d
  nest labels flat

def statements (b : Bundle) (s : Settings) : Traced (List Statement) :=
  b.statementsBy s.encoding.decoder s.scriptIndex

def listing (b : Bundle) (s : Settings) : Traced String := do
  return Statement.scriptListing (← b.statements s)

end Bundle

end SceneScript
