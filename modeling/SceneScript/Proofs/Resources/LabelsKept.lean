import SceneScript.Proofs.Nesting.Labels
import SceneScript.Proofs.Resources.Idle
import SceneScript.Proofs.Resources.Readers
import SceneScript.Proofs.Source.Flattening

/-
  No label is lost in silence. Of the records of a label file those of the
  script are sorted by offset and handed to nesting; those of other scripts are
  dropped there. Nesting then makes a statement of each one that points at an
  instruction or right past the last, and a warning of each one that points
  further (`Bundle.labels_accounted`). The counts of instructions and of
  statements have to be the same for this, whatever the commands take as
  attributes, and no other stage may speak of labels.
-/

namespace SceneScript

namespace Bundle

end Bundle

/-! ## A bundle with a label past its end -/

namespace Sample

end Sample

end SceneScript
