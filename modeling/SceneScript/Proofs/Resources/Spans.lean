import SceneScript.Proofs.Expression.Dissection
import SceneScript.Proofs.Files.LabelFile
import SceneScript.Proofs.Files.VocabularyFile
import SceneScript.Proofs.Resources.Readers

/-
  What the readers of the resources read as text, byte for byte, when they
  have a result: of a vocabulary every name, of a label file the name of every
  label, whatever its script, and of an expression the sigils of its variables
  and its literals. A decoder that complains about everything
  (`TextDecoder.watched`) makes a run tell. `Parser.Spells p bytes x spans`
  says that `p` reads `bytes` as `x`, and `spans` in it as text.
-/

namespace SceneScript

variable {α β : Type}

/-- Not about a span of bytes. -/
def Event.Spanless (e : Event) : Prop := e.span? = none

theorem Event.spanless_of_isAboutScene {e : Event} (h : e.isAboutScene = true) : e.Spanless := by
  cases e with
  | sceneHeader => rfl
  | unmasking => rfl
  | _ => cases h

theorem Traced.spans_of_spanless {t : Traced α} (h : ∀ e ∈ t.events, e.Spanless) : t.spans = [] :=
  List.filterMap_eq_nil_iff.mpr h

theorem Traced.spans_bind_of_ok {t : Traced α} {a : α} (h : t.outcome = .ok a)
    (f : α → Traced β) : (t >>= f).spans = t.spans ++ (f a).spans := by
  rw [Traced.bind_of_ok h, spans, List.filterMap_append]
  rfl

namespace Parser

/-- Wherever `bytes` stand, `p` returns `x` and stops right after them; on the
way it reads `spans` as text. -/
structure Spells (p : Parser α) (bytes : List UInt8) (x : α) (spans : List (List UInt8)) :
    Prop where
  reads : Reads p bytes x
  spans_eq : ∀ buffer pos, StandsAt bytes buffer pos → (p ⟨buffer.toArray, pos⟩).spans = spans

theorem spans_bind {p : Parser α} {f : α → Parser β} {r r' : Reader} {x : α}
    (h : (p r).outcome = .ok (x, r')) : ((p >>= f) r).spans = (p r).spans ++ (f x r').spans :=
  Traced.spans_bind_of_ok h (fun result => f result.1 result.2)

theorem spans_ofExcept (x : Except Fault α) (r : Reader) :
    ((liftM (Traced.ofExcept x) : Parser α) r).spans = [] := by
  cases x <;> rfl

theorem eq_of_outcome_lift {t : Traced α} {r r' : Reader} {x : α}
    (h : ((liftM t : Parser α) r).outcome = .ok (x, r')) : r = r' := by
  rw [outcome_lift] at h
  cases ht : t.outcome with
  | error f =>
    rw [ht] at h
    cases h
  | ok y =>
    rw [ht] at h
    cases h
    rfl

/-- What knows no decoder reads nothing as text. -/
theorem Reads.spells {p : Parser α} {bytes : List UInt8} {x : α} (h : Reads p bytes x)
    (hp : TextualFrom Event.Spanless (fun _ => p)) : Spells p bytes x [] :=
  ⟨h, fun _ _ _ => Traced.spans_of_spanless ((hp _).reports ⟨"", fun _ => ⟨"", false⟩⟩)⟩

namespace Spells

variable {p : Parser α} {f : α → Parser β} {a b bytes : List UInt8} {x : α} {y : β}
  {ss ts : List (List UInt8)}

theorem pure (x : α) : Spells (Pure.pure x) [] x [] := ⟨Reads.pure x, fun _ _ _ => rfl⟩

theorem bind (hp : Spells p a x ss) (hf : Spells (f x) b y ts) :
    Spells (p >>= f) (a ++ b) y (ss ++ ts) := by
  refine ⟨hp.reads.bind hf.reads, fun buffer pos h => ?_⟩
  rw [spans_bind (hp.reads buffer pos h.left), hp.spans_eq buffer pos h.left,
    hf.spans_eq buffer _ h.right]

theorem map (hp : Spells p bytes x ss) (f : α → β) :
    Spells (do return f (← p)) bytes (f x) ss := by
  have h : Spells (do return f (← p)) (bytes ++ []) (f x) (ss ++ []) := hp.bind (pure (f x))
  rwa [List.append_nil, List.append_nil] at h

theorem reported (hp : Spells p bytes x ss) (event : α → Event) (h : (event x).Spanless)
    (f : α → β) :
    Spells (do let y ← p; Traced.report (event y); return f y) bytes (f x) ss := by
  have hreport : Spells (liftM (Traced.report (event x)) : Parser Unit) [] () [] :=
    (Reads.lift rfl).spells (textual_report h)
  have hall : Spells (do let y ← p; Traced.report (event y); return f y) (bytes ++ ([] ++ []))
      (f x) (ss ++ ([] ++ [])) := hp.bind (hreport.bind (pure (f x)))
  simpa using hall

theorem times {ι : Type} {write : ι → List UInt8} {value : ι → α}
    {spans : ι → List (List UInt8)} {items : List ι}
    (h : ∀ i ∈ items, Spells p (write i) (value i) (spans i)) :
    Spells (Parser.times items.length p) (items.flatMap write) (items.map value)
      (items.flatMap spans) := by
  induction items with
  | nil => exact pure []
  | cons i rest ih =>
    have hrest := ih (fun j hj => h j (List.mem_cons_of_mem i hj))
    exact (h i List.mem_cons_self).bind (hrest.map (fun values => value i :: values))

theorem runOn (h : Spells p bytes x ss) (rest : List UInt8) :
    (Parser.runOn p (bytes ++ rest)).spans = ss := by
  have hat : StandsAt bytes (bytes ++ rest) 0 := ⟨[], rest, rfl, rfl⟩
  have hread : (p (Reader.ofBytes (bytes ++ rest))).outcome = _ := h.reads _ 0 hat
  unfold Parser.runOn
  rw [map_eq_pure_bind, Traced.spans_bind_of_ok hread]
  exact (List.append_nil _).trans (h.spans_eq _ 0 hat)

end Spells

theorem spells_take {bytes : List UInt8} {n : Nat} (h : bytes.length = n) :
    Spells (take n) bytes bytes [] := (reads_take_of_length h).spells (textual_take n)

theorem spells_skip {bytes : List UInt8} {n : Nat} (h : bytes.length = n) :
    Spells (skip n) bytes () [] := (reads_skip h).spells (textual_skip n)

theorem spells_byte (b : UInt8) : Spells byte [b] b [] := (reads_byte b).spells textual_byte

theorem spells_word16 (n : UInt16) : Spells word16 (leBytes 2 n.toNat) n [] :=
  (reads_word16 n).spells textual_word16

theorem spells_word32 (n : UInt32) : Spells word32 (leBytes 4 n.toNat) n [] :=
  (reads_word32 n).spells textual_word32

theorem spells_text (d : TextDecoder) {bytes : List UInt8} {n : Nat} (h : bytes.length = n) :
    Spells (text d.watched n) bytes (d.decode bytes).text [bytes] := by
  have hread : Spells (liftM (d.watched.read bytes) : Parser String) [] (d.decode bytes).text
      [bytes] := ⟨Reads.lift (TextDecoder.outcome_read _ bytes), fun _ _ _ => rfl⟩
  have hall : Spells (text d.watched n) (bytes ++ []) (d.decode bytes).text ([] ++ [bytes]) :=
    (spells_take h).bind hread
  rwa [List.append_nil] at hall

theorem spells_terminated (d : TextDecoder) {bytes : List UInt8} (h : 0 ∉ bytes) :
    Spells (terminated d.watched) (bytes ++ [0]) (d.decode bytes).text [bytes] := by
  have htail : Spells (do let t ← text d.watched bytes.length; skip 1; return t) (bytes ++ [0])
      (d.decode bytes).text ([bytes] ++ []) :=
    (spells_text d rfl).bind ((spells_skip (rfl : ([0] : List UInt8).length = 1)).map
      (fun _ => (d.decode bytes).text))
  refine ⟨reads_terminated _ h, fun buffer pos hat => ?_⟩
  rw [terminated_eq _ h hat]
  exact htail.spans_eq buffer pos hat

theorem spells_magic (resource : Resource) :
    Spells (magic resource) resource.magicBytes () [] :=
  (reads_magic resource).spells (textual_magic resource)

/-- A number that fits is read as the word it is. -/
theorem spells_number {n : Nat} (h : n < 2 ^ 32) :
    Spells word32 (leBytes 4 n) (UInt32.ofNat n) [] := (reads_number h).spells textual_word32

end Parser

/-! ## Labels and names -/

theorem LabelRecord.spells (d : TextDecoder) (r : LabelRecord) :
    Parser.Spells (LabelIndex.readLabel d.watched) r.bytes (r.label d) [r.name] := by
  have hname : r.name.length = (UInt8.ofNat r.name.length).toNat :=
    (UInt8.toNat_ofNat_of_lt' r.short).symm
  exact (Parser.spells_byte _).bind ((Parser.spells_text d hname).bind
    ((Parser.spells_word32 r.id).bind ((Parser.spells_word32 r.offset).bind
      ((Parser.spells_word16 r.scriptIndex).bind
        ((Parser.spells_skip (length_leBytes 2 _)).map (fun _ => r.label d))))))

/-- The names in a label file. -/
def LabelFile.names (f : LabelFile) : List (List UInt8) := f.records.map LabelRecord.name

theorem LabelFile.spells (d : TextDecoder) (f : LabelFile) :
    Parser.Spells (LabelIndex.read d.watched) f.bytes
      ⟨f.version, LabelIndex.sortByOffset (f.labels d)⟩ f.names := by
  have hrecords : Parser.Spells
      (Parser.times (UInt32.ofNat f.records.length).toNat (LabelIndex.readLabel d.watched))
      (f.records.flatMap LabelRecord.bytes) (f.labels d) f.names := by
    rw [UInt32.toNat_ofNat_of_lt' f.few, names, List.map_eq_flatMap]
    exact Parser.Spells.times (fun r _ => r.spells d)
  exact (Parser.spells_magic .labels).bind ((Parser.spells_word32 f.version).bind
    ((Parser.spells_number f.few).bind ((Parser.spells_skip f.ranges_size).bind
      (hrecords.reported (fun labels => .labelsRead f.version labels.length) rfl
        (fun labels => LabelIndex.mk f.version (LabelIndex.sortByOffset labels))))))

theorem AttributeEntry.spells (d : TextDecoder) (e : AttributeEntry) :
    Parser.Spells (Vocabulary.readAttributeName d.watched) e.bytes (d.decode e.name).text
      [e.name] :=
  (Parser.spells_terminated d e.no_zero).bind
    ((Parser.spells_skip (length_leBytes 4 _)).map (fun _ => (d.decode e.name).text))

/-- The names of a command and of its attributes. -/
def CommandEntry.spans (e : CommandEntry) : List (List UInt8) :=
  e.name :: e.attributes.map AttributeEntry.name

theorem CommandEntry.spells (d : TextDecoder) (e : CommandEntry) :
    Parser.Spells (Vocabulary.readCommand d.watched) e.bytes (e.names d) e.spans := by
  have hattributes : Parser.Spells
      (Parser.times (UInt8.ofNat e.attributes.length).toNat
        (Vocabulary.readAttributeName d.watched))
      (e.attributes.flatMap AttributeEntry.bytes)
      (e.attributes.map (fun a => (d.decode a.name).text))
      (e.attributes.flatMap (fun a => [a.name])) := by
    rw [UInt8.toNat_ofNat_of_lt' e.few]
    exact Parser.Spells.times (fun a _ => a.spells d)
  rw [spans, List.map_eq_flatMap]
  exact (Parser.spells_terminated d e.no_zero).bind
    ((Parser.spells_byte _).bind (hattributes.map (CommandNames.mk (d.decode e.name).text)))

/-- The names in a vocabulary file. -/
def VocabularyFile.spans (f : VocabularyFile) : List (List UInt8) :=
  f.commands.flatMap CommandEntry.spans

theorem VocabularyFile.spells (d : TextDecoder) (f : VocabularyFile) :
    Parser.Spells (Vocabulary.read d.watched) f.bytes (f.vocabulary d) f.spans := by
  have hcommands : Parser.Spells
      (Parser.times (UInt32.ofNat f.commands.length).toNat (Vocabulary.readCommand d.watched))
      (f.commands.flatMap CommandEntry.bytes) (f.commands.map (CommandEntry.names d)) f.spans := by
    rw [UInt32.toNat_ofNat_of_lt' f.few]
    exact Parser.Spells.times (fun e _ => e.spells d)
  exact (Parser.spells_magic .vocabulary).bind ((Parser.spells_word32 f.version).bind
    ((Parser.spells_number f.few).bind ((Parser.spells_skip (length_leBytes 4 _)).bind
      (hcommands.reported (fun commands => .vocabularyRead f.version commands.length) rfl
        (Vocabulary.mk f.version)))))

/-! ## Expressions -/

namespace Expression

def Leaf.spans : Leaf → List (List UInt8)
  | .text bytes _ => [bytes]
  | .scalar sigil _ | .array sigil _ => [[sigil]]
  | _ => []

/-- What an instruction has read as text: the sigil of a variable or a literal. -/
def Instr.spans : Instr → List (List UInt8)
  | .leaf l => l.spans
  | .openIndex sigil _ => [[sigil]]
  | _ => []

def spansOf : Option Instr → List (List UInt8)
  | some i => i.spans
  | none => []

/-- The sigils and the literals in a byte string. -/
def spans (bytes : List UInt8) : List (List UInt8) := (dissect bytes).1.flatMap spansOf

theorem spells_variable (d : TextDecoder) (sigil : UInt8) (id : Int16) :
    Parser.Spells (readVariable d.watched) (variableBytes sigil id) (variableName d sigil id)
      [[sigil]] :=
  (Parser.spells_text d (rfl : [sigil].length = 1)).bind
    (((Parser.reads_int16 id).spells Parser.textual_int16).map
      (fun id => (d.decode [sigil]).text ++ "var" ++ variableNumber id))

theorem spells_operand (d : TextDecoder) {i : Instr} {len : UInt16} {operand : List UInt8}
    (h : i.Allows len operand) :
    Parser.Spells (readOperand d.watched len.toNat i.opcode) operand (i.action d) i.spans := by
  have hreads := reads_operand d.watched h
  -- What has text in it is read step by step; nothing else knows the decoder.
  cases i with
  | leaf l =>
    cases l with
    | text bytes short =>
      obtain ⟨hlen, rfl⟩ : len.toNat = bytes.length ∧ operand = bytes := h
      exact (Parser.spells_text d hlen.symm).map Action.push
    | scalar sigil id =>
      obtain rfl : operand = variableBytes sigil id := h
      exact (spells_variable d sigil id).map Action.push
    | array sigil id =>
      obtain rfl : operand = variableBytes sigil id := h
      exact (spells_variable d sigil id).map (fun name => Action.push (name ++ "()"))
    | int8 n => exact hreads.spells (Parser.textual_byte.map _)
    | int16 n => exact hreads.spells (Parser.textual_int16.map _)
    | int32 n => exact hreads.spells (Parser.textual_int32.map _)
    | int64 n => exact hreads.spells (Parser.textual_int64.map _)
    | double bits => exact hreads.spells (Parser.textual_word64.map _)
  | openIndex sigil id =>
    obtain rfl : operand = variableBytes sigil id := h
    exact (spells_variable d sigil id).map Action.openIndex
  | closeIndex => exact hreads.spells ((Parser.textual_skip 1).map _)
  | separator => exact hreads.spells (.pure _)
  | unary op => exact hreads.spells (.pure _)
  | binary op => exact hreads.spells (.pure _)

theorem spells_first (d : TextDecoder) {bytes rest : List UInt8} {step : Option Instr}
    (h : first? bytes = some (step, rest)) :
    ∃ own, bytes = own ++ rest ∧
      Parser.Spells (Action.read d.watched) own (actionOf d step) (spansOf step) := by
  rcases first?_eq_some h with ⟨i, len, operand, rfl, hallows, rfl⟩ | ⟨code, len, rfl, hcode, rfl⟩
  · refine ⟨_, rfl, (Parser.spells_byte i.opcode.code).bind ((Parser.spells_word16 len).bind ?_)⟩
    rw [ofCode?_code]
    exact spells_operand d hallows
  · refine ⟨[code] ++ (leBytes 2 len.toNat ++ []), by simp, ?_⟩
    refine (Parser.spells_byte code).bind ((Parser.spells_word16 len).bind ?_)
    rw [hcode]
    have hreport : Parser.Spells (liftM (Traced.report (.unknownOpcode code))) [] () [] :=
      (Parser.Reads.lift rfl).spells (Parser.textual_report rfl)
    exact hreport.bind (Parser.Spells.pure Action.ignore)

/-- A run with a result has read the sigils and the literals of all its
instructions. -/
theorem spans_run (d : TextDecoder) (front bytes : List UInt8) {fuel : Nat}
    (hfuel : bytes.length ≤ fuel) {stack : Stack} {t : String} {r : Reader}
    (h : (run d.watched fuel stack ⟨(front ++ bytes).toArray, front.length⟩).outcome =
      .ok (t, r)) :
    (run d.watched fuel stack ⟨(front ++ bytes).toArray, front.length⟩).spans = spans bytes := by
  -- By induction on the fuel, `front` being what has been read already.
  induction fuel generalizing front bytes stack with
  | zero =>
    obtain rfl := List.eq_nil_of_length_eq_zero (Nat.le_zero.mp hfuel)
    rw [spans, dissect_of_none rfl]
    exact Parser.spans_ofExcept _ _
  | succ fuel ih =>
    rw [run_succ] at h ⊢
    by_cases hnil : bytes = []
    · rw [if_pos ((atEnd_append front bytes).mpr hnil), spans, hnil, dissect_of_none rfl]
      exact Parser.spans_ofExcept _ _
    · rw [if_neg (mt (atEnd_append front bytes).mp hnil)] at h ⊢
      obtain ⟨⟨action, mid⟩, haction, h, _⟩ := Traced.exists_of_bind_ok h
      cases hfirst : first? bytes with
      | none =>
        obtain ⟨offset, len, hread⟩ := runsOut_read d.watched front hfirst hnil
        rw [hread] at haction
        cases haction
      | some first =>
        obtain ⟨step, rest⟩ := first
        have hshort := length_of_first? hfirst
        rw [spans, dissect_of_some hfirst, List.flatMap_cons]
        obtain ⟨own, rfl, hspells⟩ := spells_first d hfirst
        have hat : StandsAt own (front ++ (own ++ rest)) front.length := ⟨front, rest, by simp, rfl⟩
        have hread := hspells.reads _ _ hat
        obtain ⟨rfl, rfl⟩ := Prod.mk.inj (Except.ok.inj (hread.symm.trans haction))
        obtain ⟨⟨next, mid⟩, hnext, h, _⟩ := Traced.exists_of_bind_ok h
        rw [Parser.spans_bind hread, hspells.spans_eq _ _ hat, Parser.spans_bind hnext,
          Parser.spans_ofExcept, List.nil_append]
        obtain rfl := Parser.eq_of_outcome_lift hnext
        rw [List.length_append] at hshort hfuel
        rw [← List.append_assoc, ← List.length_append] at h ⊢
        rw [ih (front ++ own) rest (by omega) h, spans]

theorem spans_text (d : TextDecoder) {bytes : List UInt8} {t : String}
    (h : (text d.watched bytes).outcome = .ok t) : (text d.watched bytes).spans = spans bytes := by
  unfold text Parser.runOn at h ⊢
  rw [map_eq_pure_bind] at h ⊢
  obtain ⟨⟨x, r⟩, hrun, _, _⟩ := Traced.exists_of_bind_ok h
  rw [Traced.spans_bind_of_ok hrun]
  exact (List.append_nil _).trans (spans_run d [] bytes (Nat.le_refl _) hrun)

end Expression

end SceneScript
