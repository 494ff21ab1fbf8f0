import SceneScript.Proofs.Resources.TwoBundles
import SceneScript.Proofs.Resources.TwoScenes
import SceneScript.Proofs.Source.RoundTrip

/-
  Resources that are cut off, and resources with something behind them. What
  is read from a resource is read from every extension of it, and what is read
  from a resource is read from each beginning of it, or the beginning lacks
  data (`PrefixStable`). All three readers are so, wherever the cut is
  (`prefixStable_readers`): a cut never turns one result into another. `Parser.Steady`
  says it of a parser on its way; a closure algebra carries it from the single
  reads to the readers of labels and vocabularies, and the scene is read in
  both buffers as `Scene.agree_parse` says.
-/

namespace SceneScript

/-- Bytes appended or cut off do not change what is read, though what is cut
off may be missed. -/
structure PrefixStable {α : Type} (parse : List UInt8 → Traced α) : Prop where
  extended : ∀ bytes more x, (parse bytes).outcome = .ok x → (parse (bytes ++ more)).outcome = .ok x
  cut : ∀ bytes more x, (parse (bytes ++ more)).outcome = .ok x →
    (parse bytes).outcome = .ok x ∨ ∃ f, (parse bytes).outcome = .error f ∧ f.kind = .bounds

theorem prefixStable_of_agree {α : Type} {parse : List UInt8 → Traced α}
    (h : ∀ bytes more, Agree True Eq (parse bytes).outcome (parse (bytes ++ more)).outcome) :
    PrefixStable parse where
  extended bytes more _ hx := Agree.eq_ok (hx ▸ h bytes more)
  cut bytes more _ hx := Agree.eq_ok_or (hx ▸ h bytes more)

/-! ## Parsers that what comes later does not disturb -/

namespace Parser

variable {α β : Type}

/-- Whatever is appended to the buffer, `p` reads the same, or the buffer was
too short for it. -/
def Steady (p : Parser α) : Prop :=
  ∀ (b more : List UInt8) (pos : Nat), InBoth b (b ++ more) pos p p (fun x y _ => x = y)

namespace Steady

theorem pure (x : α) : Steady (Pure.pure x) := fun _ _ _ => Abreast.pure rfl

theorem bind {p : Parser α} {f : α → Parser β} (hp : Steady p) (hf : ∀ x, Steady (f x)) :
    Steady (p >>= f) := by
  intro b more pos
  refine (hp b more pos).bind ?_
  rintro x _ mid rfl
  exact hf x b more mid

theorem map {p : Parser α} (hp : Steady p) (f : α → β) : Steady (do return f (← p)) :=
  hp.bind (fun x => pure (f x))

/-- A step that only reports. -/
theorem lift (t : Traced α) : Steady (liftM t) :=
  fun _ _ _ => (Abreast.lift (.of_eq rfl)).mono (fun _ _ _ h => h.1)

theorem times {p : Parser α} (hp : Steady p) (n : Nat) : Steady (Parser.times n p) := by
  intro b more pos
  refine (inBoth_times (Q := fun _ x y => x = y) (P := fun _ _ => True) ?_ (Nat.zero_add n)
    trivial).mono (fun _ _ _ heach => heach.1.eq (fun _ _ _ => id))
  intro _ mid _ _
  exact (hp b more mid).mono (fun _ _ _ h => ⟨h, trivial⟩)

theorem agree_runOn {p : Parser α} (hp : Steady p) (bytes more : List UInt8) :
    Agree True Eq (runOn p bytes).outcome (runOn p (bytes ++ more)).outcome :=
  (Parser.agree_runOn (hp bytes more 0)).mono (fun _ => trivial) (fun _ _ ⟨_, h⟩ => h)

end Steady

theorem steady_take (n : Nat) : Steady (take n) := by
  intro b more pos
  have hsame := sameAt_append b more
  refine (inBoth_take hsame.le pos n).mono ?_
  rintro x y _ ⟨hlong, rfl, rfl, _⟩
  exact hsame.window (fun _ _ _ => trivial) hlong

theorem steady_magic (resource : Resource) : Steady (magic resource) :=
  fun b more pos => (inBoth_magic (sameAt_append b more) resource pos (fun _ _ _ => trivial)).mono
    (fun _ _ _ _ => rfl)

theorem steady_text (d : TextDecoder) (n : Nat) : Steady (text d n) :=
  fun b more pos => (inBoth_text (sameAt_append b more) d pos n (fun _ _ _ => trivial)).mono
    (fun _ _ _ h => h.1)

theorem steady_terminated (d : TextDecoder) : Steady (terminated d) :=
  fun b more => inBoth_terminated (sameAt_append b more) d

theorem steady_skip (n : Nat) : Steady (skip n) := (steady_take n).map (fun _ => ())

theorem steady_byte : Steady byte := (steady_take 1).map (fun bytes => UInt8.ofNat (leNat bytes))

theorem steady_word16 : Steady word16 := (steady_take 2).map leWord16

theorem steady_word32 : Steady word32 := (steady_take 4).map leWord32

end Parser

/-! ## The three readers -/

theorem LabelIndex.steady_readLabel (d : TextDecoder) : Parser.Steady (readLabel d) :=
  Parser.steady_byte.bind (fun len => (Parser.steady_text d len.toNat).bind (fun name =>
    Parser.steady_word32.bind (fun id => Parser.steady_word32.bind (fun offset =>
      Parser.steady_word16.bind (fun scriptIndex =>
        (Parser.steady_skip 2).map (fun _ => Label.mk name id offset scriptIndex))))))

theorem LabelIndex.steady_read (d : TextDecoder) : Parser.Steady (read d) :=
  (Parser.steady_magic .labels).bind (fun _ => Parser.steady_word32.bind (fun version =>
    Parser.steady_word32.bind (fun count => (Parser.steady_skip rangeTableSize).bind (fun _ =>
      ((steady_readLabel d).times count.toNat).bind (fun labels =>
        (Parser.Steady.lift (Traced.report (.labelsRead version labels.length))).map
          (fun _ => LabelIndex.mk version (sortByOffset labels)))))))

theorem Vocabulary.steady_readCommand (d : TextDecoder) : Parser.Steady (readCommand d) := by
  have hattribute : Parser.Steady (readAttributeName d) :=
    (Parser.steady_terminated d).bind (fun name => (Parser.steady_skip 4).map (fun _ => name))
  exact (Parser.steady_terminated d).bind (fun name => Parser.steady_byte.bind (fun count =>
    (hattribute.times count.toNat).map (CommandNames.mk name)))

theorem Vocabulary.steady_read (d : TextDecoder) : Parser.Steady (read d) :=
  (Parser.steady_magic .vocabulary).bind (fun _ => Parser.steady_word32.bind (fun version =>
    Parser.steady_word32.bind (fun count => (Parser.steady_skip 4).bind (fun _ =>
      ((steady_readCommand d).times count.toNat).bind (fun commands =>
        (Parser.Steady.lift (Traced.report (.vocabularyRead version commands.length))).map
          (fun _ => Vocabulary.mk version commands))))))

/-- With no place left out, scenes that are alike are the same. -/
theorem Scene.agree_parse_append (bytes more : List UInt8) :
    Agree True Eq (parse bytes).outcome (parse (bytes ++ more)).outcome := by
  have hsame := sameAt_append bytes more
  refine (agree_parse hsame (fun _ _ => trivial) (fun h _ => places_all h)).mono
    (fun _ => trivial) ?_
  rintro x y ⟨h, h', hs, hs', hx, hy, hlike⟩
  have hversion : h.version = h'.version := by
    have hlong : 32 ≤ bytes.length := hs.long
    rw [hs.version, hs'.version, hsame.window (fun _ _ _ => trivial) (by omega)]
  have hinstructions : x.instructions = y.instructions := by
    refine hlike.instructions.eq ?_
    rintro k ⟨_, _, _⟩ ⟨_, _, _⟩ ⟨rfl, rfl, hoffset⟩
    obtain rfl := hoffset trivial
    rfl
  have hattributes : x.attributes = y.attributes := by
    refine hlike.attributes.eq ?_
    rintro j ⟨_, ⟨_, _⟩, _⟩ ⟨_, ⟨_, _⟩, _⟩ ⟨rfl, rfl, htag, hsubType⟩
    obtain rfl := htag trivial
    obtain rfl := hsubType trivial
    rfl
  cases x
  cases y
  simp_all

/-! ## Whole bundles -/

/-- The resources of `b` are those of `b'`, whole or cut off somewhere. -/
structure Bundle.CutFrom (b b' : Bundle) : Prop where
  scene : b.scene <+: b'.scene
  labels : b.labels <+: b'.labels
  vocabulary : b.vocabulary <+: b'.vocabulary

/-- The bundle with more behind each of its resources. -/
def Bundle.padded (b : Bundle) (scene labels vocabulary : List UInt8) : Bundle :=
  ⟨b.scene ++ scene, b.labels ++ labels, b.vocabulary ++ vocabulary⟩

theorem Bundle.cutFrom_padded (b : Bundle) (scene labels vocabulary : List UInt8) :
    b.CutFrom (b.padded scene labels vocabulary) :=
  ⟨List.prefix_append _ _, List.prefix_append _ _, List.prefix_append _ _⟩

/-- The bundle with the first `n` bytes of its scene. -/
def Bundle.shortened (b : Bundle) (n : Nat) : Bundle := { b with scene := b.scene.take n }

theorem Bundle.cutFrom_shortened (b : Bundle) (n : Nat) : (b.shortened n).CutFrom b :=
  ⟨List.take_prefix _ _, List.prefix_refl _, List.prefix_refl _⟩

theorem Bundle.agree_listing_of_cutFrom {b b' : Bundle} (h : b.CutFrom b') (s : Settings) :
    Agree True Eq (b.listing s).outcome (b'.listing s).outcome := by
  obtain ⟨scene, labels, vocabulary⟩ := b
  obtain ⟨_, _, _⟩ := b'
  obtain ⟨⟨more, rfl⟩, ⟨more', rfl⟩, ⟨more'', rfl⟩⟩ := h
  exact agree_listing (agree_statementsBy_of_eq ((Vocabulary.steady_read _).agree_runOn _ _)
    ((LabelIndex.steady_read _).agree_runOn _ _) (Scene.agree_parse_append _ _))

/-- **Cutting never misleads.** Each of the three readers gives the same on a
resource and on any extension of it, unless the resource lacks data. What is
listed from three resources is listed from extensions of them, and from
beginnings of them unless one lacks data. -/
theorem prefixStable_readers :
    PrefixStable Scene.parse ∧ (∀ d, PrefixStable (LabelIndex.parse d)) ∧
      (∀ d, PrefixStable (Vocabulary.parse d)) ∧
      ∀ (b b' : Bundle) (s : Settings) (text : String), b.CutFrom b' →
        ((b.listing s).outcome = .ok text → (b'.listing s).outcome = .ok text) ∧
        ((b'.listing s).outcome = .ok text → (b.listing s).outcome = .ok text ∨
          ∃ f, (b.listing s).outcome = .error f ∧ f.kind = .bounds) := by
  refine ⟨prefixStable_of_agree Scene.agree_parse_append,
    fun d => prefixStable_of_agree (LabelIndex.steady_read d).agree_runOn,
    fun d => prefixStable_of_agree (Vocabulary.steady_read d).agree_runOn, ?_⟩
  intro b b' s text hcut
  have hagree := Bundle.agree_listing_of_cutFrom hcut s
  exact ⟨fun hb => Agree.eq_ok (hb ▸ hagree), fun hb' => Agree.eq_ok_or (hb' ▸ hagree)⟩

/-- The sample with something behind each resource, and with a scene that ends
in its header. -/
theorem prefixStable_readers_sample :
    ((Sample.bundle.padded [0x59, 0x53] [0xFF] [0, 0, 0]).listing ⟨3, .utf8⟩).outcome =
        .ok (Statement.scriptListing Sample.compilation.statements) ∧
      (((Sample.bundle.shortened 30).listing ⟨3, .utf8⟩).outcome =
          .ok (Statement.scriptListing Sample.compilation.statements) ∨
        ∃ f, ((Sample.bundle.shortened 30).listing ⟨3, .utf8⟩).outcome = .error f ∧
          f.kind = .bounds) :=
  ⟨(prefixStable_readers.2.2.2 _ _ _ _ (Sample.bundle.cutFrom_padded _ _ _)).1
      Sample.listing_bundle,
    (prefixStable_readers.2.2.2 _ _ _ _ (Sample.bundle.cutFrom_shortened 30)).2
      Sample.listing_bundle⟩

end SceneScript
