import SceneScript.Bundle
import SceneScript.Proofs.Abreast

/-
  Two bundles side by side. What is listed depends on each resource by what it
  is read as, so two bundles whose resources are read alike are listed alike:
  with the same text, or with the same fault, or the first lacks data.
-/

namespace SceneScript

namespace Bundle

variable {cut : Prop} {b b' : Bundle} {d : TextDecoder} {scriptIndex : UInt16}

/-- Two bundles have the same statements if their resources are read alike and
scenes, names and labels that are alike have the same statements. -/
theorem agree_statementsBy {V : Vocabulary → Vocabulary → Prop}
    {L : LabelIndex → LabelIndex → Prop} {C : Scene → Scene → Prop}
    (hvocabulary : Agree cut V (Vocabulary.parse d b.vocabulary).outcome
      (Vocabulary.parse d b'.vocabulary).outcome)
    (hlabels : Agree cut L (LabelIndex.parse d b.labels).outcome
      (LabelIndex.parse d b'.labels).outcome)
    (hscene : Agree cut C (Scene.parse b.scene).outcome (Scene.parse b'.scene).outcome)
    (hrest : ∀ v v' l l' x x', V v v' → L l l' → C x x' → Agree cut Eq
      (x.flatStatements v d >>= nest (l.ofScript scriptIndex)).outcome
      (x'.flatStatements v' d >>= nest (l'.ofScript scriptIndex)).outcome) :
    Agree cut Eq (b.statementsBy d scriptIndex).outcome
      (b'.statementsBy d scriptIndex).outcome := by
  unfold statementsBy
  refine hvocabulary.traced (fun v v' _ hv => ?_)
  refine hlabels.traced (fun l l' _ hl => ?_)
  refine hscene.traced (fun x x' _ hx => ?_)
  refine Agree.traced (R := fun _ _ => True) (.ok trivial) (fun _ _ _ _ => ?_)
  exact hrest v v' l l' x x' hv hl hx

/-- Bundles that are read as the same names, labels and scene. -/
theorem agree_statementsBy_of_eq
    (hvocabulary : Agree cut Eq (Vocabulary.parse d b.vocabulary).outcome
      (Vocabulary.parse d b'.vocabulary).outcome)
    (hlabels : Agree cut Eq (LabelIndex.parse d b.labels).outcome
      (LabelIndex.parse d b'.labels).outcome)
    (hscene : Agree cut Eq (Scene.parse b.scene).outcome (Scene.parse b'.scene).outcome) :
    Agree cut Eq (b.statementsBy d scriptIndex).outcome
      (b'.statementsBy d scriptIndex).outcome := by
  refine agree_statementsBy hvocabulary hlabels hscene ?_
  rintro v _ l _ x _ rfl rfl rfl
  exact .of_eq rfl

/-- A listing is the text of the statements. -/
theorem agree_listing {s : Settings}
    (h : Agree cut Eq (b.statementsBy s.encoding.decoder s.scriptIndex).outcome
      (b'.statementsBy s.encoding.decoder s.scriptIndex).outcome) :
    Agree cut Eq (b.listing s).outcome (b'.listing s).outcome :=
  h.traced (fun _ _ _ heq => .ok (congrArg Statement.scriptListing heq))

end Bundle

end SceneScript
