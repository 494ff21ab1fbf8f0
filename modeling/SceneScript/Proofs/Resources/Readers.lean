import SceneScript.Bundle
import SceneScript.Proofs.Source.Command
import SceneScript.Proofs.Textual

/-
  Every stage of a listing is textual: it uses its decoder for nothing but to
  read text. No stage speaks of what is left over at the end, the last ones
  excepted: the flat statements report attributes that no instruction took
  (`textual_flatStatements`), and nesting reports labels that point past the
  end. What each of them does is built from steps and readings as it is
  written, so every lemma here follows a definition line by line.
-/

namespace SceneScript

namespace Event

/-- Says which attributes no instruction took. -/
def isLeftover : Event → Bool
  | .leftoverAttributes _ => true
  | _ => false

/-- Says that a label points past the end. -/
def isStray : Event → Bool
  | .strayLabel .. => true
  | _ => false

/-- Tells what the header of a scene says, or how it was unmasked. -/
def isAboutScene : Event → Bool
  | .sceneHeader .. | .unmasking .. => true
  | _ => false

/-- Reported on the way, and not of what a stage has left over at its end. -/
structure Passing (e : Event) : Prop where
  not_leftover : e.isLeftover = false
  not_stray : e.isStray = false

end Event

open Event (Passing)

/-! ## Reading bytes -/

namespace Parser

variable {α β : Type} {S : Event → Prop}

theorem textual_take (n : Nat) : TextualFrom S (fun _ => take n) :=
  .silent (fun r => by unfold take; split <;> rfl)

theorem textual_seek (target : Nat) : TextualFrom S (fun _ => seek target) :=
  .silent (fun r => by unfold seek; split <;> rfl)

theorem textual_fail (f : Fault) : TextualFrom S (fun _ => (fail f : Parser α)) :=
  .silent (fun _ => rfl)

theorem textual_get : TextualFrom S (fun _ => (get : Parser Reader)) := .silent (fun _ => rfl)

theorem textual_ofExcept (r : Except Fault α) :
    TextualFrom S (fun _ => (liftM (Traced.ofExcept r) : Parser α)) :=
  .lift (.silent rfl)

theorem textual_report {e : Event} (h : S e) :
    TextualFrom S (fun _ => (liftM (Traced.report e) : Parser Unit)) :=
  .lift (.report h)

theorem textual_skip (n : Nat) : TextualFrom S (fun _ => skip n) :=
  (textual_take n).map (fun _ => ())

theorem textual_byte : TextualFrom S (fun _ => byte) :=
  (textual_take 1).map (fun bytes => UInt8.ofNat (leNat bytes))

theorem textual_word16 : TextualFrom S (fun _ => word16) := (textual_take 2).map leWord16

theorem textual_word32 : TextualFrom S (fun _ => word32) := (textual_take 4).map leWord32

theorem textual_word64 : TextualFrom S (fun _ => word64) := (textual_take 8).map leWord64

theorem textual_int16 : TextualFrom S (fun _ => int16) := textual_word16.map UInt16.toInt16

theorem textual_int32 : TextualFrom S (fun _ => int32) := textual_word32.map UInt32.toInt32

theorem textual_int64 : TextualFrom S (fun _ => int64) := textual_word64.map UInt64.toInt64

theorem textual_magic (resource : Resource) : TextualFrom S (fun _ => magic resource) :=
  (textual_take 4).bind (fun _ => .ite (fun _ => .pure ()) (fun _ => textual_fail _))

theorem textual_times {p : TextDecoder → Parser α} (hp : TextualFrom S p) (n : Nat) :
    TextualFrom S (fun d => times n (p d)) := by
  induction n with
  | zero => exact .pure []
  | succ n ih => exact hp.bind (fun x => ih.map (fun xs => x :: xs))

theorem textual_aside {p : TextDecoder → Parser α} (hp : TextualFrom S p) :
    TextualFrom S (fun d => aside (p d)) :=
  fun r => (hp r).map (fun result => (result.1, r))

theorem textual_runOn {p : TextDecoder → Parser α} (hp : TextualFrom S p) (bytes : List UInt8) :
    Textual S (fun d => runOn (p d) bytes) :=
  (hp _).map (fun result => result.1)

theorem textual_text (n : Nat) : TextualFrom Passing (fun d => text d n) :=
  (textual_take n).bind (fun bytes => .lift (.read bytes (fun _ => ⟨rfl, rfl⟩)))

theorem textual_terminated : TextualFrom Passing terminated :=
  textual_get.bind (fun _ => .ite
    (fun _ => (textual_text _).bind (fun t => (textual_skip 1).map (fun _ => t)))
    (fun _ => textual_fail _))

end Parser

/-! ## Labels, names and scenes -/

theorem LabelIndex.textual_parse (bytes : List UInt8) :
    Textual Passing (fun d => parse d bytes) := by
  have hlabel : TextualFrom Passing readLabel :=
    Parser.textual_byte.bind (fun len => (Parser.textual_text len.toNat).bind (fun name =>
      Parser.textual_word32.bind (fun id => Parser.textual_word32.bind (fun offset =>
        Parser.textual_word16.bind (fun scriptIndex =>
          (Parser.textual_skip 2).map (fun _ => Label.mk name id offset scriptIndex))))))
  have hread : TextualFrom Passing read :=
    (Parser.textual_magic .labels).bind (fun _ => Parser.textual_word32.bind (fun version =>
      Parser.textual_word32.bind (fun count =>
        (Parser.textual_skip rangeTableSize).bind (fun _ =>
          (Parser.textual_times hlabel count.toNat).bind (fun labels =>
            (Parser.textual_report ⟨rfl, rfl⟩).map
              (fun _ => LabelIndex.mk version (sortByOffset labels)))))))
  exact Parser.textual_runOn hread bytes

theorem Vocabulary.textual_parse (bytes : List UInt8) :
    Textual Passing (fun d => parse d bytes) := by
  have hattribute : TextualFrom Passing readAttributeName :=
    Parser.textual_terminated.bind (fun name => (Parser.textual_skip 4).map (fun _ => name))
  have hcommand : TextualFrom Passing readCommand :=
    Parser.textual_terminated.bind (fun name => Parser.textual_byte.bind (fun count =>
      (Parser.textual_times hattribute count.toNat).map (CommandNames.mk name)))
  have hread : TextualFrom Passing read :=
    (Parser.textual_magic .vocabulary).bind (fun _ => Parser.textual_word32.bind (fun version =>
      Parser.textual_word32.bind (fun count => (Parser.textual_skip 4).bind (fun _ =>
        (Parser.textual_times hcommand count.toNat).bind (fun commands =>
          (Parser.textual_report ⟨rfl, rfl⟩).map (fun _ => Vocabulary.mk version commands))))))
  exact Parser.textual_runOn hread bytes

namespace Scene

variable {S : Event → Prop}

theorem textual_readHeader : TextualFrom S (fun _ => Header.read) :=
  (Parser.textual_magic .scene).bind (fun _ => Parser.textual_word32.bind (fun version =>
    Parser.textual_word32.bind (fun count => Parser.textual_word32.bind (fun _ => .ite
      (fun _ => Parser.textual_word32.bind (fun descriptorSize =>
        (Parser.textual_skip 4).bind (fun _ => (Parser.textual_skip 4).bind (fun _ =>
          (Parser.textual_skip 4).map (fun _ => Header.mk version count descriptorSize)))))
      (fun _ => Parser.textual_fail _)))))

theorem textual_readKey (h : Header) : TextualFrom S (fun _ => h.readKey) :=
  .ite (fun _ => .pure 0)
    (fun _ => (Parser.textual_seek _).bind (fun _ => Parser.textual_word32))

theorem textual_readAttribute (valuesAt : Nat) :
    TextualFrom S (fun _ => readAttribute valuesAt) :=
  Parser.textual_word16.bind (fun id => (Parser.textual_take 2).bind (fun tag =>
    Parser.textual_word32.bind (fun len => Parser.textual_word32.bind (fun offset =>
      (Parser.textual_aside ((Parser.textual_seek (valuesAt + offset.toNat)).bind
        (fun _ => Parser.textual_take len.toNat))).map
          (Attribute.mk id (tag.getD 0 0, tag.getD 1 0))))))

theorem textual_readBody (h : Header) : TextualFrom S (fun _ => readBody h) := by
  have hinstruction : TextualFrom S (fun _ => readInstruction) :=
    Parser.textual_byte.bind (fun opcode => Parser.textual_byte.bind (fun attributeCount =>
      Parser.textual_byte.bind (fun blockOffset =>
        (Parser.textual_skip 1).map (fun _ => Instruction.mk opcode attributeCount blockOffset))))
  exact (Parser.textual_seek _).bind (fun _ =>
    (Parser.textual_times (textual_readAttribute h.valuesAt) _).bind (fun attributes =>
      (Parser.textual_seek _).bind (fun _ => (Parser.textual_times hinstruction _).map
        (fun instructions => Scene.mk h.version instructions attributes))))

/-- Reading a scene uses no decoder, and tells of its header and its mask alone. -/
theorem textual_parse (bytes : List UInt8) :
    Textual (fun e => e.isAboutScene = true) (fun _ => parse bytes) := by
  have hmask : ∀ key buffer,
      Textual (fun e => e.isAboutScene = true) (fun _ => (mask key buffer).report) := by
    intro key buffer
    unfold mask
    split
    · exact .silent rfl
    · split
      · exact .silent rfl
      · exact .bind (.report rfl) (fun _ => .silent rfl)
  refine .bind (textual_readHeader _) (fun _ => .ite (fun _ => ?_) (fun _ => .silent rfl))
  refine .bind (textual_readKey _ _) (fun _ => .bind (.report rfl) (fun _ => ?_))
  exact .bind (hmask _ _) (fun _ => Parser.textual_runOn (textual_readBody _) _)

end Scene

/-! ## Expressions -/

namespace Expression

theorem textual_readVariable : TextualFrom Passing readVariable :=
  (Parser.textual_text 1).bind (fun sigil =>
    Parser.textual_int16.map (fun id => sigil ++ "var" ++ variableNumber id))

theorem textual_readOperand (len : Nat) (op : Opcode) :
    TextualFrom Passing (fun d => readOperand d len op) := by
  cases op with
  | binary op => exact .pure _
  | unary op => exact .pure _
  | int8 => exact Parser.textual_byte.map (fun n => Action.push (toString n.toNat))
  | int16 => exact Parser.textual_int16.map (fun n => Action.push (toString n.toInt))
  | int32 => exact Parser.textual_int32.map (fun n => Action.push (toString n.toInt))
  | int64 => exact Parser.textual_int64.map (fun n => Action.push (toString n.toInt))
  | double => exact Parser.textual_word64.map (fun bits => Action.push (Decimal.fixed 6 bits))
  | text => exact (Parser.textual_text len).map Action.push
  | scalar => exact textual_readVariable.map Action.push
  | array => exact textual_readVariable.map (fun name => Action.push (name ++ "()"))
  | startIndex => exact textual_readVariable.map Action.openIndex
  | separator => exact .pure _
  | endIndex => exact (Parser.textual_skip 1).map (fun _ => Action.closeIndex)

theorem textual_readAction : TextualFrom Passing Action.read := by
  refine Parser.textual_byte.bind (fun code => Parser.textual_word16.bind (fun len => ?_))
  cases Opcode.ofCode? code with
  | none => exact (Parser.textual_report ⟨rfl, rfl⟩).map (fun _ => Action.ignore)
  | some op => exact textual_readOperand len.toNat op

theorem textual_run (fuel : Nat) (stack : Stack) :
    TextualFrom Passing (fun d => run d fuel stack) := by
  induction fuel generalizing stack with
  | zero => exact Parser.textual_ofExcept _
  | succ fuel ih =>
    refine Parser.textual_get.bind
      (fun r => .ite (fun _ => Parser.textual_ofExcept _) (fun _ => ?_))
    exact textual_readAction.bind
      (fun action => (Parser.textual_ofExcept _).bind (fun next => ih next))

theorem textual_text (bytes : List UInt8) : Textual Passing (fun d => Expression.text d bytes) :=
  Parser.textual_runOn (textual_run bytes.length []) bytes

end Expression

/-! ## Flat statements -/

namespace Flat

variable (v : Vocabulary) (index : Nat) (i : Instruction)

theorem textual_next : TextualFrom Passing (fun _ => next index) :=
  .silent (fun attributes => by cases attributes <;> rfl)

theorem textual_drop (n : Nat) : TextualFrom Passing (fun _ => drop index n) := by
  induction n with
  | zero => exact .pure ()
  | succ n ih => exact (textual_next index).bind (fun _ => ih)

theorem textual_keyword : Textual Passing (fun _ => keyword v i) := by
  unfold keyword
  split
  · exact .silent rfl
  · exact .bind (.report ⟨rfl, rfl⟩) (fun _ => .silent rfl)

theorem textual_attributeName (a : Attribute) : Textual Passing (fun _ => attributeName v i a) := by
  unfold attributeName
  split
  · exact .silent rfl
  · exact .bind (.report ⟨rfl, rfl⟩) (fun _ => .silent rfl)

theorem textual_takeArgument (s : Statement) :
    TextualFrom Passing (fun d => takeArgument v d index i s) :=
  (textual_next index).bind (fun a => (TextualFrom.lift (Expression.textual_text a.value)).bind
    (fun value => (TextualFrom.lift (textual_attributeName v i a)).map
      (fun name => s.addArgument name value)))

theorem textual_takeArguments (n : Nat) (s : Statement) :
    TextualFrom Passing (fun d => takeArguments v d index i n s) := by
  induction n generalizing s with
  | zero => exact .pure s
  | succ n ih => exact (textual_takeArgument v index i s).bind (fun s => ih s)

theorem textual_takeCondition (s : Statement) :
    TextualFrom Passing (fun d => takeCondition v d index i s) := by
  unfold takeCondition
  cases i.attributeCount.toNat with
  | zero => exact .pure s
  | succ n =>
    exact (textual_takeArgument v index i s).bind
      (fun s => (textual_drop index n).bind (fun _ => .pure s))

theorem textual_takeAssignment (s : Statement) :
    TextualFrom Passing (fun d => takeAssignment d index i s) := by
  have hoperands : TextualFrom Passing (fun d => takeOperands d index s) :=
    (textual_next index).bind (fun destination => (textual_next index).bind (fun source =>
      (TextualFrom.lift (Expression.textual_text destination.value)).bind (fun left =>
        (TextualFrom.lift (Expression.textual_text source.value)).bind (fun right => .pure _))))
  simp only [takeAssignment_eq]
  exact .ite (fun _ => (TextualFrom.lift (.report ⟨rfl, rfl⟩)).bind (fun _ => hoperands))
    (fun _ => hoperands)

theorem textual_statement : TextualFrom Passing (fun d => statement v d index i) := by
  refine (TextualFrom.lift (textual_keyword v i)).bind (fun k => ?_)
  cases k with
  | conditional => exact textual_takeCondition v index i _
  | alternative => exact textual_takeCondition v index i _
  | loop => exact textual_takeCondition v index i _
  | assignment => exact textual_takeAssignment index i _
  | _ => exact textual_takeArguments v index i _ _

theorem textual_statements (instructions : List Instruction) :
    TextualFrom Passing (fun d => statements v d index instructions) := by
  induction instructions generalizing index with
  | nil => exact .pure []
  | cons i rest ih =>
    exact (textual_statement v index i).bind (fun s => (ih (index + 1)).map (fun ss => s :: ss))

end Flat

/-- Flat statements speak of no labels. -/
theorem Scene.textual_flatStatements (scene : Scene) (v : Vocabulary) :
    Textual (fun e => e.isStray = false) (fun d => scene.flatStatements v d) := by
  refine .bind ((Flat.textual_statements v 0 scene.instructions scene.attributes).mono
    (fun _ h => h.not_stray)) (fun _ => .ite (fun _ => ?_) (fun _ => .silent rfl))
  exact .bind (.report rfl) (fun _ => .silent rfl)

/-! ## Bundles -/

/-- Making the statements of a bundle is textual as a whole. -/
theorem Bundle.textual_statementsBy (b : Bundle) (scriptIndex : UInt16) :
    Textual (fun _ => True) (fun d => b.statementsBy d scriptIndex) := by
  have hany : ∀ (S : Event → Prop) e, S e → True := fun _ _ _ => trivial
  refine .bind ((Vocabulary.textual_parse b.vocabulary).mono (hany _)) (fun v => ?_)
  refine .bind ((LabelIndex.textual_parse b.labels).mono (hany _)) (fun index => ?_)
  refine .bind ((Scene.textual_parse b.scene).mono (hany _)) (fun x => ?_)
  refine .bind (.report trivial) (fun _ => ?_)
  exact .bind ((x.textual_flatStatements v).mono (hany _)) (fun flat => .plain (fun _ _ => trivial))

/-- A run with a result: the results of its stages, which report one after the
other. -/
structure Bundle.Stages (b : Bundle) (d : TextDecoder) (scriptIndex : UInt16) (v : Vocabulary)
    (index : LabelIndex) (x : Scene) (flat nested : List Statement) : Prop where
  vocabulary : (Vocabulary.parse d b.vocabulary).outcome = .ok v
  labels : (LabelIndex.parse d b.labels).outcome = .ok index
  scene : (Scene.parse b.scene).outcome = .ok x
  statements : (x.flatStatements v d).outcome = .ok flat
  nested : (nest (index.ofScript scriptIndex) flat).outcome = .ok nested
  events : (b.statementsBy d scriptIndex).events =
    (Vocabulary.parse d b.vocabulary).events ++ ((LabelIndex.parse d b.labels).events ++
      ((Scene.parse b.scene).events ++
        (.resourcesRead scriptIndex x.instructions.length x.attributes.length
            (index.ofScript scriptIndex).length ::
          ((x.flatStatements v d).events ++ (nest (index.ofScript scriptIndex) flat).events))))

theorem Bundle.exists_stages {b : Bundle} {d : TextDecoder} {scriptIndex : UInt16}
    {nested : List Statement} (h : (b.statementsBy d scriptIndex).outcome = .ok nested) :
    ∃ v index x flat, b.Stages d scriptIndex v index x flat nested := by
  obtain ⟨v, hv, h, hv'⟩ := Traced.exists_of_bind_ok h
  obtain ⟨index, hindex, h, hindex'⟩ := Traced.exists_of_bind_ok h
  obtain ⟨x, hx, h, hx'⟩ := Traced.exists_of_bind_ok h
  obtain ⟨_, _, h, hread'⟩ := Traced.exists_of_bind_ok h
  obtain ⟨flat, hflat, h, hflat'⟩ := Traced.exists_of_bind_ok h
  refine ⟨v, index, x, flat, hv, hindex, hx, hflat, h, ?_⟩
  unfold statementsBy
  rw [hv', hindex', hx', hread', hflat']
  rfl

end SceneScript
