import SceneScript.Proofs.Expression.Dissection
import SceneScript.Text.Encoding

/-
  How bytecode is grouped. A byte string alone, whatever decoder reads its
  text, decides how its pieces are put together: `Grouping.ofBytes?` runs the
  instructions on a stack of groupings, where the machine has only text. The
  text of an expression is that of its grouping (`text_grouping`), and the
  pieces of a grouping are the last pieces of the program, in order and each
  of them once. So no text that a decoder finds in a literal, be it a
  parenthesis or a comma, is taken for part of the program.
-/

namespace SceneScript.Expression

/-- What an instruction writes by itself. -/
inductive Piece where
  | leaf (l : Leaf)
  /-- The name of an indexed variable. -/
  | name (sigil : UInt8) (id : Int16)
  | separator
  /-- The parenthesis of an index. -/
  | opening

/-- The pieces that an instruction adds to a program. -/
def pieces : Option Instr → List Piece
  | some (.leaf l) => [.leaf l]
  | some (.openIndex sigil id) => [.name sigil id, .opening]
  | some .separator => [.separator]
  | some .closeIndex | some (.unary _) | some (.binary _) | none => []

/-- Pieces put together. A piece may be an operand whatever it is, and an index
may hold anything. -/
inductive Grouping where
  | piece (p : Piece)
  | indexed (name : Grouping) (index : List Grouping)
  | unary (op : UnaryOperator) (x : Grouping)
  | binary (op : BinaryOperator) (x y : Grouping)

def Piece.text (d : TextDecoder) : Piece → String
  | .leaf l => l.spelling d
  | .name sigil id => variableName d sigil id
  | .separator => ", "
  | .opening => "("

mutual

def Grouping.text (d : TextDecoder) : Grouping → String
  | .piece p => p.text d
  | .indexed name index => name.text d ++ "(" ++ Grouping.joined d index ++ ")"
  | .unary .negate x => "-" ++ x.text d
  | .unary .toNumber x => "@(" ++ x.text d ++ ")"
  | .unary .toText x => "$(" ++ x.text d ++ ")"
  | .binary op x y => x.text d ++ " " ++ sign op ++ " " ++ y.text d

/-- The texts of groupings, one after the other. -/
def Grouping.joined (d : TextDecoder) : List Grouping → String
  | [] => ""
  | g :: rest => g.text d ++ Grouping.joined d rest

end

mutual

/-- The pieces of a grouping, from left to right. -/
def Grouping.pieces : Grouping → List Piece
  | .piece p => [p]
  | .indexed name index => name.pieces ++ .opening :: Grouping.allPieces index
  | .unary _ x => x.pieces
  | .binary _ x y => x.pieces ++ y.pieces

/-- The pieces of groupings, one after the other. -/
def Grouping.allPieces : List Grouping → List Piece
  | [] => []
  | g :: rest => g.pieces ++ Grouping.allPieces rest

end

theorem joined_append (d : TextDecoder) (gs hs : List Grouping) :
    Grouping.joined d (gs ++ hs) = Grouping.joined d gs ++ Grouping.joined d hs := by
  induction gs with
  | nil => rw [List.nil_append, Grouping.joined, String.empty_append]
  | cons g rest ih =>
    rw [List.cons_append, Grouping.joined, Grouping.joined, ih, String.append_assoc]

theorem allPieces_append (gs hs : List Grouping) :
    Grouping.allPieces (gs ++ hs) = Grouping.allPieces gs ++ Grouping.allPieces hs := by
  induction gs with
  | nil => rfl
  | cons g rest ih =>
    rw [List.cons_append, Grouping.allPieces, Grouping.allPieces, ih, List.append_assoc]

/-! ## A machine on groupings -/

/-- Split a stack at its innermost opening: what lies above, in program order,
and what lies below. -/
def splitAtOpening : List Grouping → Option (List Grouping × List Grouping)
  | [] => none
  | .piece .opening :: below => some ([], below)
  | g :: rest => (splitAtOpening rest).map (fun (index, below) => (index ++ [g], below))

/-- The stack of groupings after one instruction, the topmost first. -/
def group : Option Instr → List Grouping → Option (List Grouping)
  | none, stack => some stack
  | some (.leaf l), stack => some (.piece (.leaf l) :: stack)
  | some (.openIndex sigil id), stack =>
    some (.piece .opening :: .piece (.name sigil id) :: stack)
  | some .separator, stack => some (.piece .separator :: stack)
  | some .closeIndex, stack =>
    match splitAtOpening stack with
    | some (index, name :: rest) => some (.indexed name index :: rest)
    | _ => none
  | some (.unary op), x :: rest => some (.unary op x :: rest)
  | some (.binary op), y :: x :: rest => some (.binary op x y :: rest)
  | _, _ => none

def groupAll : List (Option Instr) → List Grouping → Option (List Grouping)
  | [], stack => some stack
  | i :: rest, stack => (group i stack).bind (groupAll rest)

/-- The grouping that a byte string leaves on top of the stack. No decoder is
asked. -/
def Grouping.ofBytes? (bytes : List UInt8) : Option Grouping :=
  if (dissect bytes).2 = [] then (groupAll (dissect bytes).1 []).bind List.head? else none

/-! ## Texts -/

/-- The fragment that stands for a grouping on the stack of texts. -/
def Grouping.fragment (d : TextDecoder) : Grouping → Fragment
  | .piece .opening => .opening
  | g => .text (g.text d)

theorem spelling_fragment (d : TextDecoder) (g : Grouping) :
    (g.fragment d).spelling = g.text d := by
  unfold Grouping.fragment
  split
  · rw [Grouping.text]
    rfl
  · rfl

/-- The outcome of a step on groupings and that of the same step on texts. -/
inductive Mirrors (d : TextDecoder) : Option (List Grouping) → Except Fault Stack → Prop where
  | done (stack : List Grouping) :
    Mirrors d (some stack) (.ok (stack.map (Grouping.fragment d)))
  | underflow (activity : Activity) : Mirrors d none (.error (.stackUnderflow activity))

theorem fragment_of_ne (d : TextDecoder) {g : Grouping} (h : g ≠ .piece .opening) :
    g.fragment d = .text (g.text d) := by
  unfold Grouping.fragment
  split
  · exact absurd rfl h
  · rfl

/-- Both stacks have their innermost opening at the same place. -/
theorem popIndex_fragments (d : TextDecoder) (stack : List Grouping) :
    popIndex (stack.map (Grouping.fragment d)) =
      match splitAtOpening stack with
      | some (index, below) => .ok (Grouping.joined d index, below.map (Grouping.fragment d))
      | none => .error (.stackUnderflow .indexClose) := by
  fun_induction splitAtOpening stack with
  | case1 => rfl
  | case2 below =>
    show _ = Except.ok (Grouping.joined d [], _)
    rw [Grouping.joined]
    rfl
  | case3 g rest hne ih =>
    rw [List.map_cons, fragment_of_ne d hne, popIndex, ih]
    cases splitAtOpening rest with
    | none => rfl
    | some split =>
      show Except.ok _ = Except.ok (Grouping.joined d (split.1 ++ [g]), _)
      rw [joined_append, Grouping.joined, Grouping.joined, String.append_empty]

/-- What is put together is text on the stack of texts. -/
theorem mirrors_text (d : TextDecoder) {g : Grouping} {t : String} (rest : List Grouping)
    (hg : g ≠ .piece .opening) (ht : t = g.text d) :
    Mirrors d (some (g :: rest)) (.ok (.text t :: rest.map (Grouping.fragment d))) := by
  rw [ht, ← fragment_of_ne d hg]
  exact .done (g :: rest)

/-- A step on texts does what the step on groupings does. -/
theorem mirrors_group (d : TextDecoder) (i : Option Instr) (stack : List Grouping) :
    Mirrors d (group i stack) ((actionOf d i).apply (stack.map (Grouping.fragment d))) := by
  match i, stack with
  | none, stack => exact .done stack
  | some (.leaf l), stack => exact .done (.piece (.leaf l) :: stack)
  | some (.openIndex sigil id), stack =>
    exact .done (.piece .opening :: .piece (.name sigil id) :: stack)
  | some .separator, stack => exact .done (.piece .separator :: stack)
  | some .closeIndex, stack =>
    have hpop := popIndex_fragments d stack
    show Mirrors d _ ((popIndex _).bind _)
    rw [hpop, group]
    match splitAtOpening stack with
    | none => exact .underflow .indexClose
    | some (index, []) => exact .underflow .indexedVariable
    | some (index, name :: rest) =>
      refine mirrors_text d rest (fun h => by cases h) ?_
      rw [spelling_fragment, Grouping.text]
  | some (.unary op), [] => exact .underflow _
  | some (.unary op), x :: rest =>
    refine mirrors_text d rest (fun h => by cases h) ?_
    rw [spelling_fragment]
    cases op <;> rw [Grouping.text] <;> rfl
  | some (.binary op), [] => exact .underflow _
  | some (.binary op), [y] => exact .underflow _
  | some (.binary op), y :: x :: rest =>
    refine mirrors_text d rest (fun h => by cases h) ?_
    rw [spelling_fragment, spelling_fragment, Grouping.text, symbol_eq_sign]

theorem mirrors_groupAll (d : TextDecoder) (instrs : List (Option Instr)) (stack : List Grouping) :
    Mirrors d (groupAll instrs stack)
      (applyAll (instrs.map (actionOf d)) (stack.map (Grouping.fragment d))) := by
  induction instrs generalizing stack with
  | nil => exact .done stack
  | cons i rest ih =>
    have hstep := mirrors_group d i stack
    show Mirrors d ((group i stack).bind _) (Except.bind _ _)
    generalize group i stack = next, (actionOf d i).apply _ = outcome at hstep
    cases hstep with
    | done stack => exact ih stack
    | underflow activity => exact .underflow activity

/-- A byte string has a text if it has a grouping, and then the text of that. -/
theorem text_or_fault (d : TextDecoder) (bytes : List UInt8) :
    (∃ g, Grouping.ofBytes? bytes = some g ∧ (Expression.text d bytes).outcome = .ok (g.text d)) ∨
      (Grouping.ofBytes? bytes = none ∧ ∃ f, (Expression.text d bytes).outcome = .error f) := by
  obtain ⟨ending, hending, htext⟩ := outcome_text d bytes
  have hrun := mirrors_groupAll d (dissect bytes).1 []
  rw [htext]
  unfold Grouping.ofBytes?
  simp only [List.map_nil] at hrun
  generalize groupAll _ [] = grouped, applyAll _ [] = outcome at hrun
  cases hending with
  | whole hrest =>
    rw [if_pos hrest]
    cases hrun with
    | underflow activity => exact .inr ⟨rfl, _, rfl⟩
    | done stack =>
      cases stack with
      | nil => exact .inr ⟨rfl, _, rfl⟩
      | cons g _ =>
        refine .inl ⟨g, rfl, ?_⟩
        rw [← spelling_fragment]
        rfl
  | cutOff hrest offset len =>
    rw [if_neg hrest]
    cases hrun with
    | underflow activity => exact .inr ⟨rfl, _, rfl⟩
    | done stack => exact .inr ⟨rfl, _, rfl⟩

/-! ## Pieces -/

/-- The pieces on a stack, in program order. -/
def stackPieces (stack : List Grouping) : List Piece := Grouping.allPieces stack.reverse

theorem stackPieces_cons (g : Grouping) (stack : List Grouping) :
    stackPieces (g :: stack) = stackPieces stack ++ g.pieces := by
  rw [stackPieces, List.reverse_cons, allPieces_append, Grouping.allPieces, Grouping.allPieces,
    List.append_nil, ← stackPieces]

theorem stackPieces_of_split {stack index below : List Grouping}
    (h : splitAtOpening stack = some (index, below)) :
    stackPieces stack = stackPieces below ++ .opening :: Grouping.allPieces index := by
  fun_induction splitAtOpening stack generalizing index below with
  | case1 => cases h
  | case2 below =>
    cases h
    rw [stackPieces_cons, Grouping.pieces, Grouping.allPieces]
  | case3 g rest hne ih =>
    obtain ⟨⟨index, below⟩, hsplit, heq⟩ := Option.map_eq_some_iff.mp h
    obtain ⟨rfl, rfl⟩ := Prod.mk.inj heq
    rw [stackPieces_cons, ih hsplit, allPieces_append, Grouping.allPieces, Grouping.allPieces]
    simp

/-- An instruction adds its pieces at the end and leaves the others in order. -/
theorem stackPieces_group {i : Option Instr} {stack next : List Grouping}
    (h : group i stack = some next) : stackPieces next = stackPieces stack ++ pieces i := by
  unfold group at h
  split at h
  · cases h
    exact (List.append_nil _).symm
  · cases h
    rw [stackPieces_cons, Grouping.pieces, pieces]
  · cases h
    rw [stackPieces_cons, stackPieces_cons, Grouping.pieces, Grouping.pieces, pieces]
    simp
  · cases h
    rw [stackPieces_cons, Grouping.pieces, pieces]
  · split at h
    · next index name rest hsplit =>
      cases h
      rw [stackPieces_of_split hsplit, stackPieces_cons, stackPieces_cons, Grouping.pieces, pieces]
      simp
    · cases h
  · cases h
    rw [stackPieces_cons, stackPieces_cons, Grouping.pieces, pieces, List.append_nil]
  · cases h
    rw [stackPieces_cons, stackPieces_cons, stackPieces_cons, Grouping.pieces, pieces]
    simp
  · cases h

theorem stackPieces_groupAll {instrs : List (Option Instr)} {stack last : List Grouping}
    (h : groupAll instrs stack = some last) :
    stackPieces last = stackPieces stack ++ instrs.flatMap pieces := by
  induction instrs generalizing stack with
  | nil =>
    cases h
    simp
  | cons i rest ih =>
    obtain ⟨next, hstep, hrest⟩ := Option.bind_eq_some_iff.mp h
    rw [ih hrest, stackPieces_group hstep, List.flatMap_cons, List.append_assoc]

theorem pieces_suffix {bytes : List UInt8} {g : Grouping} (h : Grouping.ofBytes? bytes = some g) :
    g.pieces <:+ (dissect bytes).1.flatMap pieces := by
  unfold Grouping.ofBytes? at h
  split at h
  · obtain ⟨stack, hrun, htop⟩ := Option.bind_eq_some_iff.mp h
    obtain ⟨below, rfl⟩ := List.head?_eq_some_iff.mp htop
    have hpieces := stackPieces_groupAll hrun
    rw [stackPieces_cons] at hpieces
    exact ⟨stackPieces below, hpieces⟩
  · cases h

/-- **Grouping.** A byte string has a text exactly if it has a grouping, which
no decoder takes part in; the text is that of the grouping, whose pieces are
the last ones of the program, each in its place and used once. -/
theorem text_grouping (bytes : List UInt8) :
    (∀ d, (∃ t, (Expression.text d bytes).outcome = .ok t) ↔
      ∃ g, Grouping.ofBytes? bytes = some g) ∧
    ∀ g, Grouping.ofBytes? bytes = some g →
      (∀ d, (Expression.text d bytes).outcome = .ok (g.text d)) ∧
        g.pieces <:+ (dissect bytes).1.flatMap pieces := by
  refine ⟨fun d => ?_, fun g hg => ⟨fun d => ?_, pieces_suffix hg⟩⟩
  · rcases text_or_fault d bytes with ⟨g, hg, htext⟩ | ⟨hnone, f, htext⟩
    · exact ⟨fun _ => ⟨g, hg⟩, fun _ => ⟨_, htext⟩⟩
    · rw [htext, hnone]
      exact ⟨fun ⟨_, h⟩ => (by cases h), fun ⟨_, h⟩ => (by cases h)⟩
  · rcases text_or_fault d bytes with ⟨g', hg', htext⟩ | ⟨hnone, _⟩
    · rw [hg] at hg'
      cases hg'
      exact htext
    · rw [hg] at hnone
      cases hnone

/-- An index left open, an operand that is the parenthesis of another one, a
literal that looks like one, and what the unary operators make of them. -/
def unbalanced : List Instr :=
  [.leaf (.int8 9), .openIndex 0x24 1, .openIndex 0x40 2, .unary .toNumber, .leaf (.int8 5),
    .unary .negate, .binary .add, .leaf .parenthesis, .closeIndex, .unary .toText]

theorem text_grouping_unbalanced :
    ∃ g, Grouping.ofBytes? (unbalanced.flatMap Instr.write) = some g ∧
      (Expression.text Encoding.utf8.decoder (unbalanced.flatMap Instr.write)).outcome =
        .ok "$($var1(@var2@(() + -5())" ∧
      g.pieces.length = 6 ∧ g.pieces <:+ unbalanced.flatMap (fun i => pieces (some i)) := by
  have hcut := dissect_of_code (code_write unbalanced)
  have hgrouping : ∃ g, Grouping.ofBytes? (unbalanced.flatMap Instr.write) = some g ∧
      g.text Encoding.utf8.decoder = "$($var1(@var2@(() + -5())" ∧ g.pieces.length = 6 := by
    unfold Grouping.ofBytes?
    rw [hcut]
    exact ⟨_, rfl, by decide +kernel, by decide +kernel⟩
  obtain ⟨g, hg, hshown, hlength⟩ := hgrouping
  obtain ⟨htext, hpieces⟩ := (text_grouping _).2 g hg
  rw [hcut, List.flatMap_map] at hpieces
  exact ⟨g, hg, (htext _).trans (congrArg Except.ok hshown), hlength, hpieces⟩

end SceneScript.Expression
