import SceneScript.Bundle
import SceneScript.Proofs.Files.SceneFile
import SceneScript.Proofs.Files.VocabularyFile
import SceneScript.Proofs.Source.Command

/-
  From source to listing. A `Compilation` is a program in the words of a
  vocabulary file, with code for its expressions, a label file that marks it
  and the numbers of a scene header that no reader looks at. Its bundle has
  the scene under any key. Whatever the key, the bundle reads back as the
  statements of the program (`listing_compilation`): every stage undoes
  what compiling did, from the mask to the nesting of blocks.
-/

namespace SceneScript

/-- A compiled program, with labels that `d` reads, as script number
`scriptIndex` of a game. -/
structure Compilation (d : TextDecoder) (scriptIndex : UInt16) where
  names : VocabularyFile
  program : Program (Command.keyword (v := names.vocabulary d)) true
  labels : LabelFile
  marked : labels.Marks d scriptIndex program.marks
  version : UInt32
  lineNumbersSize : UInt32
  unused : UInt32
  instructions_fit : 4 * program.commands.length < 2 ^ 32
  descriptors_fit : 12 * (program.commands.flatMap Command.attributes).length < 2 ^ 32
  values_fit : ((program.commands.flatMap Command.attributes).flatMap (·.value)).length < 2 ^ 32

namespace Compilation

variable {d : TextDecoder} {scriptIndex : UInt16}

/-- The scene file: the instructions of the commands in order, and their
operands in order. -/
def sceneFile (c : Compilation d scriptIndex) : SceneFile where
  version := c.version
  instructions := c.program.commands.map (fun command => (command.instruction, command.unused))
  attributes := c.program.commands.flatMap Command.attributes
  lineNumbersSize := c.lineNumbersSize
  unused := c.unused
  instructions_fit := by
    rw [List.length_map]
    exact c.instructions_fit
  descriptors_fit := c.descriptors_fit
  values_fit := c.values_fit

/-- The three resources, the scene under a key. -/
def bundle (c : Compilation d scriptIndex) (key : UInt32) : Bundle :=
  ⟨c.sceneFile.masked key, c.labels.bytes, c.names.bytes⟩

theorem scene_bundle (c : Compilation d scriptIndex) (key : UInt32) :
    (c.bundle key).scene = c.sceneFile.masked key := rfl

theorem labels_bundle (c : Compilation d scriptIndex) (key : UInt32) :
    (c.bundle key).labels = c.labels.bytes := rfl

theorem vocabulary_bundle (c : Compilation d scriptIndex) (key : UInt32) :
    (c.bundle key).vocabulary = c.names.bytes := rfl

def statements (c : Compilation d scriptIndex) : List Statement :=
  c.program.statements (Command.statement d)

theorem outcome_flatStatements (c : Compilation d scriptIndex) :
    (c.sceneFile.scene.flatStatements (c.names.vocabulary d) d).outcome =
      .ok (c.program.commands.map (Command.statement d)) := by
  have hinstructions : c.sceneFile.scene.instructions =
      c.program.commands.map Command.instruction := by
    simp [SceneFile.scene, sceneFile]
  have htaken := Flat.takes_statements (c.names.vocabulary d) d 0 c.program.commands []
  rw [List.append_nil, ← hinstructions] at htaken
  exact Traced.outcome_bind_of_ok htaken _

theorem outcome_statementsBy (c : Compilation d scriptIndex) (key : UInt32) :
    ((c.bundle key).statementsBy d scriptIndex).outcome = .ok c.statements := by
  unfold Bundle.statementsBy
  -- Names, labels and scene are read one after the other; then come the flat statements, from
  -- which nesting makes those of the program.
  refine (Traced.outcome_bind_of_ok (c.names.outcome_parse d) _).trans ?_
  refine (Traced.outcome_bind_of_ok (c.labels.outcome_parse d) _).trans ?_
  refine (Traced.outcome_bind_of_ok (c.sceneFile.outcome_parse key) _).trans ?_
  refine (Traced.outcome_bind_of_ok rfl _).trans ?_
  refine (Traced.outcome_bind_of_ok c.outcome_flatStatements _).trans ?_
  exact nest_program (Command.renders d) c.program
    (LabelFile.map_mark_ofScript c.marked (Token.sorted_marks _ _) c.labels.version)

end Compilation

/-- **Reading inverts compiling.** Whatever program was compiled, whatever else
its label file holds, and whatever key its scene is under, it is listed as its
own statements. -/
theorem listing_compilation (settings : Settings)
    (c : Compilation settings.encoding.decoder settings.scriptIndex) (key : UInt32) :
    ((c.bundle key).statements settings).outcome = .ok c.statements ∧
      ((c.bundle key).listing settings).outcome =
        .ok (Statement.scriptListing c.statements) := by
  have hstatements : ((c.bundle key).statements settings).outcome = .ok c.statements :=
    c.outcome_statementsBy key
  exact ⟨hstatements, Traced.outcome_bind_of_ok hstatements _⟩

/-! ## A script, compiled -/

namespace Sample

def bytes (letters : List Char) : List UInt8 := letters.map (fun c => UInt8.ofNat c.toNat)

def names : VocabularyFile where
  version := 481
  unused := 0
  commands :=
    [⟨bytes ['L', 'E', 'T'], by decide, [], by decide⟩,
      ⟨bytes ['I', 'F'], by decide, [⟨bytes ['C', 'O', 'N', 'D'], by decide, 0⟩], by decide⟩,
      ⟨bytes ['I', 'F', 'B', 'L', 'E', 'N', 'D'], by decide, [], by decide⟩,
      ⟨bytes ['E', 'L', 'S', 'E'], by decide, [], by decide⟩,
      ⟨bytes ['I', 'F', 'E', 'N', 'D'], by decide, [], by decide⟩,
      ⟨bytes ['L', 'O', 'O', 'P'], by decide, [⟨bytes ['S', 'E', 'T'], by decide, 0⟩], by decide⟩,
      ⟨bytes ['L', 'O', 'O', 'P', 'E', 'N', 'D'], by decide, [], by decide⟩,
      ⟨bytes ['M', 'E', 'S'], by decide, [⟨bytes ['T', 'E', 'X', 'T'], by decide, 0⟩], by decide⟩,
      ⟨bytes ['R', 'E', 'T', 'U', 'R', 'N'], by decide, [], by decide⟩]
  few := by decide

def vocabulary : Vocabulary := names.vocabulary Encoding.utf8.decoder

def operand (subType : UInt8) (tree : Expression.Tree) : Operand :=
  ⟨0, (3, subType), tree, tree.instrs.flatMap Expression.Instr.write, Expression.code_write _⟩

def command (opcode : UInt8) (operands : List Operand) (few : operands.length < 2 ^ 8)
    (arity : vocabulary.keyword opcode = .assignment → operands.length = 2) :
    Command vocabulary :=
  ⟨opcode, 0, 0, operands, few, arity⟩

def number (n : UInt8) : Expression.Tree := .leaf (.int8 n)

def counter : Expression.Tree := .leaf (.scalar 0x40 1)

/-- A label's block with a conditional and a loop in it, and a label at the end
that has no block. -/
def program : Program (Command.keyword (v := vocabulary)) true :=
  .label "MAIN"
    (.plain (command 0 [operand 1 counter, operand 0 (number 2)] (by decide) (by decide)) rfl rfl
      (.branches
        (command 1 [operand 0 (.binary .equal counter (number 5))] (by decide) (by decide)) rfl
        (.next
          (.loop (command 5 [operand 0 (number 255)] (by decide) (by decide)) rfl
            (.plain (command 7 [operand 0 (.indexed 0x24 2 [number 0, number 1])] (by decide)
                (by decide)) rfl rfl
              (.plain (command 7 [] (by decide) (by decide)) rfl rfl .done))
            (command 6 [] (by decide) (by decide)) rfl .done)
          (command 2 [] (by decide) (by decide)) rfl (command 3 [] (by decide) (by decide)) rfl
          (.last .done (command 4 [] (by decide) (by decide)) rfl))
        .done))
    (command 8 [] (by decide) (by decide)) rfl (.mark "TAIL" .done)

/-- The labels of the program in the wrong order, one of another script between
them. -/
def labels : LabelFile where
  version := 481
  ranges := List.replicate LabelIndex.rangeTableSize 0
  ranges_size := List.length_replicate
  records :=
    [⟨bytes ['T', 'A', 'I', 'L'], by decide, 0, 10, 3, 0⟩,
      ⟨bytes ['O', 'T', 'H', 'E', 'R'], by decide, 1, 0, 4, 0⟩,
      ⟨bytes ['M', 'A', 'I', 'N'], by decide, 2, 0, 3, 0⟩]
  few := by decide

theorem marked : labels.Marks Encoding.utf8.decoder 3 program.marks := by
  intro offset
  have hrecords : ((labels.labels Encoding.utf8.decoder).filter (·.scriptIndex == 3)).map
      Label.mark = [("TAIL", 10), ("MAIN", 0)] := by decide
  have hmarks : program.marks = [("MAIN", 0), ("TAIL", 10)] := rfl
  rw [hrecords, hmarks]
  by_cases hmain : offset = 0
  · rw [hmain]
    rfl
  · have hne : (0 == offset) = false := by
      simp
      omega
    simp [List.filter_cons, hne]

def compilation : Compilation Encoding.utf8.decoder 3 where
  names := names
  program := program
  labels := labels
  marked := marked
  version := 481
  lineNumbersSize := 0
  unused := 0
  instructions_fit := by decide
  descriptors_fit := by decide
  values_fit := by decide

def bundle : Bundle := compilation.bundle 0x2F5CA1E3

theorem listing_bundle :
    (bundle.listing ⟨3, .utf8⟩).outcome = .ok (Statement.scriptListing compilation.statements) :=
  Traced.outcome_bind_of_ok (compilation.outcome_statementsBy 0x2F5CA1E3) _

end Sample

theorem listing_compilation_sample :
    ((Sample.compilation.bundle 0x2F5CA1E3).listing ⟨3, .utf8⟩).outcome =
      .ok ("#=MAIN\n\x7b\n  @var1 += 2\n  IF[@var1 == 5]\n  \x7b\n    LOOP[]\n    \x7b\n" ++
        "      MES[]\n      MES[TEXT=$var2(0, 1)]\n    \x7d\n    LOOPEND[]\n  \x7d\n" ++
        "  ELSE[]\n  IFEND[]\n  RETURN[]\n\x7d\n\n#=TAIL\n\n") := by
  rw [(listing_compilation ⟨3, .utf8⟩ Sample.compilation 0x2F5CA1E3).2]
  exact congrArg Except.ok (by decide +kernel)

end SceneScript
