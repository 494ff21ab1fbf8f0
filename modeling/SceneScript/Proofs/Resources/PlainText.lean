import SceneScript.Proofs.Resources.Idle
import SceneScript.Proofs.Resources.Spans
import SceneScript.Proofs.Source.Flattening
import SceneScript.Proofs.Text.Ascii

/-
  Plain text. The encoding of a game matters for nothing but the text in its
  resources: two decoders that agree on all spans of bytes that are read as
  text make the same listing, though text decides on the way how instructions
  take their attributes and where blocks end. The spans of a listing are the
  names of the vocabulary, those of all labels, and the sigils and literals of
  the attributes that are shown (`Bundle.spans_eq`). The three encodings agree
  on ASCII, so none of them matters while all spans are ASCII
  (`Bundle.listing_of_ascii`).
-/

namespace SceneScript

/-! ## Attributes that are shown -/

/-- How many attributes an instruction takes. -/
def Vocabulary.taken (v : Vocabulary) (i : Instruction) : Nat :=
  match v.keyword i.opcode with
  | .assignment => 2
  | _ => i.attributeCount.toNat

/-- How many of them its statement shows: the first, of an opener with a
condition, and all otherwise. -/
def Vocabulary.shown (v : Vocabulary) (i : Instruction) : Nat :=
  match v.keyword i.opcode with
  | .conditional | .alternative | .loop => min 1 i.attributeCount.toNat
  | .assignment => 2
  | _ => i.attributeCount.toNat

namespace Flat

variable {α β : Type}

/-- What the expressions of attributes read as text. -/
def spansOf (attributes : List Attribute) : List (List UInt8) :=
  attributes.flatMap (fun a => Expression.spans a.value)

/-- With a result, `t` has taken `n` attributes from the list and has read
`spans` as text. -/
def Tells (t : Taker α) (attributes : List Attribute) (n : Nat) (spans : List (List UInt8)) :
    Prop :=
  ∀ x left, (t attributes).outcome = .ok (x, left) →
    left = attributes.drop n ∧ (t attributes).spans = spans

namespace Tells

variable {attributes : List Attribute}

theorem pure (x : α) : Tells (Pure.pure x) attributes 0 [] := by
  intro y left h
  cases h
  exact ⟨rfl, rfl⟩

theorem bind {t : Taker α} {f : α → Taker β} {n k : Nat} {ss ts : List (List UInt8)}
    (ht : Tells t attributes n ss)
    (hf : ∀ x, (t attributes).outcome = .ok (x, attributes.drop n) →
      Tells (f x) (attributes.drop n) k ts) :
    Tells (t >>= f) attributes (k + n) (ss ++ ts) := by
  intro y left h
  obtain ⟨⟨x, rest⟩, hx, h, _⟩ := Traced.exists_of_bind_ok h
  obtain ⟨rfl, hspans⟩ := ht _ _ hx
  obtain ⟨rfl, hspans'⟩ := hf x hx _ _ h
  have hbind : ((t >>= f) attributes).spans =
      (t attributes).spans ++ (f x (attributes.drop n)).spans := Traced.spans_bind_of_ok hx _
  exact ⟨by rw [List.drop_drop, Nat.add_comm], by rw [hbind, hspans, hspans']⟩

/-- A step that takes nothing. -/
theorem lift {t : Traced α} {ss : List (List UInt8)}
    (h : ∀ x, t.outcome = .ok x → t.spans = ss) : Tells (liftM t) attributes 0 ss := by
  intro y left hy
  obtain ⟨x, hx, hy, _⟩ := Traced.exists_of_bind_ok hy
  have hx' : t.outcome = .ok x := hx
  have hspans : Traced.spans (t >>= fun x => Pure.pure (x, attributes)) = t.spans ++ [] :=
    Traced.spans_bind_of_ok hx' _
  have hspans' : t.spans ++ [] = ss := by rw [h x hx', List.append_nil]
  cases hy
  exact ⟨rfl, hspans.trans hspans'⟩

/-- What fails tells whatever one likes. -/
theorem of_error {t : Taker α} {n : Nat} {ss : List (List UInt8)} {f : Fault}
    (h : (t attributes).outcome = .error f) : Tells t attributes n ss := by
  intro x left hx
  rw [h] at hx
  cases hx

end Tells

variable (v : Vocabulary) (d : TextDecoder) (index : Nat) (i : Instruction)

theorem tells_next (attributes : List Attribute) : Tells (next index) attributes 1 [] := by
  intro x left h
  cases attributes with
  | nil => cases h
  | cons a rest =>
    cases h
    exact ⟨rfl, rfl⟩

theorem tells_drop (n : Nat) (attributes : List Attribute) :
    Tells (drop index n) attributes n [] := by
  induction n generalizing attributes with
  | zero => exact .pure ()
  | succ n ih => exact (tells_next index attributes).bind (fun _ _ => ih _)

theorem tells_text (a : Attribute) (attributes : List Attribute) :
    Tells (liftM (Expression.text d.watched a.value)) attributes 0 (Expression.spans a.value) :=
  .lift (fun _ h => Expression.spans_text d h)

theorem spans_keyword : (keyword v i).spans = [] := by
  unfold keyword
  split <;> rfl

theorem spans_attributeName (a : Attribute) : (attributeName v i a).spans = [] := by
  unfold attributeName
  split <;> rfl

theorem tells_takeArgument (s : Statement) (attributes : List Attribute) :
    Tells (takeArgument v d.watched index i s) attributes 1 (spansOf (attributes.take 1)) := by
  cases attributes with
  | nil => exact .of_error rfl
  | cons a rest =>
    have htaken : Tells (takeArgument v d.watched index i s) (a :: rest) 1
        ([] ++ (Expression.spans a.value ++ ([] ++ []))) := by
      refine (tells_next index _).bind (fun b hb => ?_)
      cases hb
      exact (tells_text d a rest).bind (fun _ _ =>
        (Tells.lift (fun _ _ => spans_attributeName v i a)).bind (fun _ _ => .pure _))
    simpa [spansOf] using htaken

theorem tells_takeArguments (n : Nat) (s : Statement) (attributes : List Attribute) :
    Tells (takeArguments v d.watched index i n s) attributes n (spansOf (attributes.take n)) := by
  induction n generalizing s attributes with
  | zero => exact .pure s
  | succ n ih =>
    rw [Nat.add_comm, List.take_add, spansOf, List.flatMap_append, Nat.add_comm]
    exact (tells_takeArgument v d index i s attributes).bind (fun s _ => ih s _)

theorem tells_takeCondition (s : Statement) (attributes : List Attribute) :
    Tells (takeCondition v d.watched index i s) attributes i.attributeCount.toNat
      (spansOf (attributes.take (min 1 i.attributeCount.toNat))) := by
  unfold takeCondition
  cases i.attributeCount.toNat with
  | zero => exact .pure s
  | succ n =>
    have htaken := (tells_takeArgument v d index i s attributes).bind (fun s _ =>
      (tells_drop index n _).bind (fun _ _ => Tells.pure s))
    rw [List.append_nil, List.append_nil, Nat.zero_add] at htaken
    rwa [Nat.min_eq_left (by omega)]

theorem tells_takeOperands (s : Statement) (attributes : List Attribute) :
    Tells (takeOperands d.watched index s) attributes 2 (spansOf (attributes.take 2)) := by
  match attributes with
  | [] => exact .of_error rfl
  | [_] => exact .of_error rfl
  | a :: b :: rest =>
    have hspans : spansOf ((a :: b :: rest).take 2) =
        [] ++ ([] ++ (Expression.spans a.value ++ (Expression.spans b.value ++ []))) := by
      simp [spansOf]
    rw [hspans]
    refine (tells_next index _).bind (fun destination hdestination => ?_)
    cases hdestination
    refine (tells_next index _).bind (fun source hsource => ?_)
    cases hsource
    exact (tells_text d a rest).bind (fun _ _ => (tells_text d b rest).bind (fun _ _ => .pure _))

theorem tells_takeAssignment (s : Statement) (attributes : List Attribute) :
    Tells (takeAssignment d.watched index i s) attributes 2 (spansOf (attributes.take 2)) := by
  have hoperands := tells_takeOperands d index s attributes
  rw [takeAssignment_eq]
  split
  · exact (Tells.lift (fun _ _ => rfl)).bind (fun _ _ => hoperands)
  · exact hoperands

theorem tells_statement (attributes : List Attribute) :
    Tells (statement v d.watched index i) attributes (v.taken i)
      (spansOf (attributes.take (v.shown i))) := by
  have hkeyword : Tells (liftM (keyword v i)) attributes 0 [] :=
    Tells.lift (fun _ _ => spans_keyword v i)
  have hall : Tells (statement v d.watched index i) attributes (v.taken i + 0)
      ([] ++ spansOf (attributes.take (v.shown i))) := by
    refine hkeyword.bind (fun k hk => ?_)
    rw [Vocabulary.taken, Vocabulary.shown, ← yields_keyword v i _ _ _ hk]
    clear hk
    cases k with
    | conditional => exact tells_takeCondition v d index i _ _
    | alternative => exact tells_takeCondition v d index i _ _
    | loop => exact tells_takeCondition v d index i _ _
    | assignment => exact tells_takeAssignment d index i _ _
    | _ => exact tells_takeArguments v d index i _ _ _
  exact hall

/-- The attributes that statements show, of those that instructions take. -/
def shown (v : Vocabulary) : List Instruction → List Attribute → List Attribute
  | [], _ => []
  | i :: rest, attributes =>
    attributes.take (v.shown i) ++ shown v rest (attributes.drop (v.taken i))

theorem tells_statements (instructions : List Instruction) (attributes : List Attribute) :
    Tells (statements v d.watched index instructions) attributes (instructions.map v.taken).sum
      (spansOf (shown v instructions attributes)) := by
  induction instructions generalizing index attributes with
  | nil => exact .pure []
  | cons i rest ih =>
    have htold := (tells_statement v d index i attributes).bind (fun s _ =>
      (ih (index + 1) _).bind (fun ss _ => Tells.pure (s :: ss)))
    rw [List.append_nil, Nat.zero_add] at htold
    rw [shown, spansOf, List.flatMap_append, List.map_cons, List.sum_cons, Nat.add_comm]
    exact htold

end Flat

/-- The spans that the statements of a scene read as text. -/
def Scene.spans (x : Scene) (v : Vocabulary) : List (List UInt8) :=
  Flat.spansOf (Flat.shown v x.instructions x.attributes)

theorem Scene.spans_flatStatements (d : TextDecoder) {x : Scene} {v : Vocabulary}
    {flat : List Statement} (h : (x.flatStatements v d.watched).outcome = .ok flat) :
    (x.flatStatements v d.watched).spans = x.spans v := by
  obtain ⟨⟨ss, left⟩, hss, _, _⟩ := Traced.exists_of_bind_ok h
  obtain ⟨_, hspans⟩ := Flat.tells_statements v d 0 x.instructions x.attributes _ _ hss
  unfold flatStatements
  rw [Traced.spans_bind_of_ok hss, hspans]
  -- What is left over is reported, and no part of it is read as text.
  simp only
  split <;> exact List.append_nil _

/-! ## Listings -/

theorem spans_nest (labels : List Label) (flat : List Statement) :
    (nest labels flat).spans = [] := by
  refine Traced.spans_of_spanless (fun e he => ?_)
  rcases Traced.mem_events_bind he with he | ⟨n, he⟩
  · cases he
  · obtain ⟨l, _, rfl⟩ := List.mem_map.mp he
    rfl

/-- Decoders with one text for ASCII bytes. -/
def TextDecoder.AgreeOnAscii (d e : TextDecoder) : Prop :=
  ∀ bytes, Text.IsAscii bytes → (d.decode bytes).text = (e.decode bytes).text

theorem Encoding.agreeOnAscii (x y : Encoding) : x.decoder.AgreeOnAscii y.decoder := by
  intro bytes h
  show (x.scanMarked bytes).decoded.text = (y.scanMarked bytes).decoded.text
  rw [x.scanMarked_of_ascii h, y.scanMarked_of_ascii h]

namespace Bundle

/-- The spans of bytes that are read as text on the way to a listing. -/
def spans (b : Bundle) (d : TextDecoder) (scriptIndex : UInt16) : List (List UInt8) :=
  (b.statementsBy d.watched scriptIndex).spans

/-- The listing of a script, its text read by `d`. -/
def listingBy (b : Bundle) (d : TextDecoder) (scriptIndex : UInt16) : Traced String := do
  return Statement.scriptListing (← b.statementsBy d scriptIndex)

theorem listing_eq_listingBy (b : Bundle) (s : Settings) :
    b.listing s = b.listingBy s.encoding.decoder s.scriptIndex := rfl

variable {b : Bundle} {d e : TextDecoder} {scriptIndex : UInt16} {nested : List Statement}

theorem Stages.spans_eq {v : Vocabulary} {index : LabelIndex} {x : Scene}
    {flat : List Statement} (h : b.Stages d.watched scriptIndex v index x flat nested)
    {names : VocabularyFile} {labels : LabelFile} {rest rest' : List UInt8}
    (hnames : b.vocabulary = names.bytes ++ rest) (hlabels : b.labels = labels.bytes ++ rest') :
    b.spans d scriptIndex = names.spans ++ (labels.names ++ x.spans v) := by
  have hvocabulary : (Vocabulary.parse d.watched b.vocabulary).spans = names.spans :=
    hnames ▸ (names.spells d).runOn rest
  have hindex : (LabelIndex.parse d.watched b.labels).spans = labels.names :=
    hlabels ▸ (labels.spells d).runOn rest'
  have hscene : (Scene.parse b.scene).spans = [] :=
    Traced.spans_of_spanless (fun e he =>
      Event.spanless_of_isAboutScene ((Scene.textual_parse b.scene).reports d e he))
  have hstatements := Scene.spans_flatStatements d h.statements
  have hnested := spans_nest (index.ofScript scriptIndex) flat
  unfold Traced.spans at hvocabulary hindex hscene hstatements hnested
  rw [spans, Traced.spans, h.events, List.filterMap_append, hvocabulary, List.filterMap_append,
    hindex, List.filterMap_append, hscene, List.nil_append, List.filterMap_cons_none rfl,
    List.filterMap_append, hstatements, hnested, List.append_nil]

theorem outcome_statementsBy_watched (b : Bundle) (d : TextDecoder) (scriptIndex : UInt16) :
    (b.statementsBy d.watched scriptIndex).outcome = (b.statementsBy d scriptIndex).outcome :=
  ((b.textual_statementsBy scriptIndex).outcome_watched_eq (fun _ _ => rfl)).symm

/-- All that is read as text: the names of the vocabulary, those of the labels,
and the sigils and literals of the attributes that are shown. -/
theorem spans_eq (h : (b.statementsBy d scriptIndex).outcome = .ok nested) :
    ∃ (names : VocabularyFile) (labels : LabelFile) (x : Scene) (rest rest' : List UInt8),
      b.vocabulary = names.bytes ++ rest ∧ b.labels = labels.bytes ++ rest' ∧
      (Scene.parse b.scene).outcome = .ok x ∧
      b.spans d scriptIndex = names.spans ++ (labels.names ++ x.spans (names.vocabulary d)) := by
  obtain ⟨v, index, x, flat, hstages⟩ :=
    exists_stages ((b.outcome_statementsBy_watched d scriptIndex).trans h)
  obtain ⟨names, rest, hnames⟩ := VocabularyFile.of_parse hstages.vocabulary
  obtain ⟨labels, rest', hlabels⟩ := LabelFile.of_parse hstages.labels
  have hv : v = names.vocabulary d.watched := by
    have hread := hstages.vocabulary
    rw [hnames, VocabularyFile.outcome_parse_append] at hread
    exact (Except.ok.inj hread).symm
  refine ⟨names, labels, x, rest, rest', hnames, hlabels, hstages.scene, ?_⟩
  rw [hstages.spans_eq hnames hlabels, hv]
  rfl

/-- **The encoding matters for text that is not ASCII only.** The encodings
agree on ASCII. What a listing reads as text are the names of its vocabulary,
those of all labels and the sigils and literals of the attributes shown; while
all of these are ASCII, any decoder that agrees on ASCII makes the same
statements and the same listing. -/
theorem listing_of_ascii :
    (∀ x y : Encoding, x.decoder.AgreeOnAscii y.decoder) ∧
    ∀ (b : Bundle) (d : TextDecoder) (scriptIndex : UInt16) (nested : List Statement),
      (b.statementsBy d scriptIndex).outcome = .ok nested →
      (∃ (names : VocabularyFile) (labels : LabelFile) (x : Scene) (rest rest' : List UInt8),
        b.vocabulary = names.bytes ++ rest ∧ b.labels = labels.bytes ++ rest' ∧
        (Scene.parse b.scene).outcome = .ok x ∧
        b.spans d scriptIndex = names.spans ++ (labels.names ++ x.spans (names.vocabulary d))) ∧
      ∀ e : TextDecoder, d.AgreeOnAscii e →
        (∀ span ∈ b.spans d scriptIndex, Text.IsAscii span) →
        (b.statementsBy e scriptIndex).outcome = .ok nested ∧
          (b.listingBy e scriptIndex).outcome = .ok (Statement.scriptListing nested) := by
  refine ⟨Encoding.agreeOnAscii, fun b d scriptIndex nested h => ⟨spans_eq h, ?_⟩⟩
  intro e hagree hascii
  have hsame : (b.statementsBy e scriptIndex).outcome = .ok nested :=
    ((b.textual_statementsBy scriptIndex).outcome_eq
      (fun span hspan => hagree span (hascii span hspan))).trans h
  exact ⟨hsame, Traced.outcome_bind_of_ok hsame _⟩

end Bundle

/-! ## A bundle in plain text -/

namespace Flat

theorem mem_of_mem_shown {v : Vocabulary} {instructions : List Instruction}
    {attributes : List Attribute} {a : Attribute} (h : a ∈ shown v instructions attributes) :
    a ∈ attributes := by
  induction instructions generalizing attributes with
  | nil => cases h
  | cons i rest ih =>
    rcases List.mem_append.mp h with h | h
    · exact List.mem_of_mem_take h
    · exact List.mem_of_mem_drop (ih h)

end Flat

/-- The sigils and literals of an operand are those of its expression. -/
theorem Operand.spans_eq (o : Operand) :
    Expression.spans o.code = o.tree.instrs.flatMap Expression.Instr.spans := by
  rw [Expression.spans, Expression.dissect_of_code o.compiled, List.flatMap_map]
  rfl

namespace Sample

theorem ascii_operands : ∀ c ∈ program.commands, ∀ o ∈ c.operands,
    ∀ span ∈ o.tree.instrs.flatMap Expression.Instr.spans, Text.IsAscii span := by
  decide +kernel

theorem ascii_bundle : ∀ span ∈ bundle.spans Encoding.utf8.decoder 3, Text.IsAscii span := by
  obtain ⟨v, index, x, flat, hstages⟩ := Bundle.exists_stages
    ((bundle.outcome_statementsBy_watched Encoding.utf8.decoder 3).trans
      (compilation.outcome_statementsBy 0x2F5CA1E3))
  obtain rfl : compilation.sceneFile.scene = x :=
    Except.ok.inj (differsIdly_idleScene.read.symm.trans hstages.scene)
  rw [hstages.spans_eq (vocabulary_bundle.trans (List.append_nil _).symm)
    (labels_bundle.trans (List.append_nil _).symm)]
  intro span hspan
  rcases List.mem_append.mp hspan with hspan | hspan
  · exact (by decide +kernel : ∀ span ∈ names.spans, Text.IsAscii span) span hspan
  · rcases List.mem_append.mp hspan with hspan | hspan
    · exact (by decide +kernel : ∀ span ∈ labels.names, Text.IsAscii span) span hspan
    · -- Whatever is shown is an operand of a command.
      obtain ⟨a, ha, hspan⟩ := List.mem_flatMap.mp hspan
      obtain ⟨c, hc, ha⟩ := List.mem_flatMap.mp (Flat.mem_of_mem_shown ha)
      obtain ⟨o, ho, rfl⟩ := List.mem_map.mp ha
      exact ascii_operands c hc o ho span (o.spans_eq ▸ hspan)

end Sample

theorem Bundle.listing_of_ascii_sample :
    (Sample.bundle.statementsBy Encoding.utf8.decoder 3).outcome =
        .ok Sample.compilation.statements ∧
      (∀ span ∈ Sample.bundle.spans Encoding.utf8.decoder 3, Text.IsAscii span) ∧
      ∀ e : Encoding, (Sample.bundle.statements ⟨3, e⟩).outcome =
          .ok Sample.compilation.statements ∧
        (Sample.bundle.listing ⟨3, e⟩).outcome =
          .ok (Statement.scriptListing Sample.compilation.statements) := by
  have hstatements := Sample.compilation.outcome_statementsBy 0x2F5CA1E3
  refine ⟨hstatements, Sample.ascii_bundle, fun e => ?_⟩
  rw [listing_eq_listingBy]
  exact (listing_of_ascii.2 Sample.bundle Encoding.utf8.decoder 3 _ hstatements).2 e.decoder
    (listing_of_ascii.1 .utf8 e) Sample.ascii_bundle

end SceneScript
