import SceneScript.Proofs.Files.Accepted
import SceneScript.Proofs.Resources.TwoBundles
import SceneScript.Proofs.Resources.TwoScenes
import SceneScript.Proofs.Source.Destinations
import SceneScript.Proofs.Source.RoundTrip

/-
  What a listing does not depend on. In the three resources of a script there
  are bytes that are read and never used: versions, the table of ranges and the
  numbers of labels, labels of other scripts, what follows a name, and in the
  scene the places that `Scene.Idle` lists. `Bundle.Alike` relates bundles that
  differ in nothing else; they have the same listing, or fail for the same
  reason (`Bundle.listing_of_alike`). The scene may be masked, for a place is
  idle whatever byte stands there.
-/

namespace SceneScript

/-! ## Labels -/

namespace LabelFile

/-- The names of the labels that a script has at an offset, in file order. -/
def namesAt (f : LabelFile) (scriptIndex : UInt16) (offset : Nat) : List (List UInt8) :=
  (f.records.filter (fun r => r.offset.toNat == offset && r.scriptIndex == scriptIndex)).map
    LabelRecord.name

/-- The same labels for a script. Only labels at one offset are in order. -/
def SameLabels (scriptIndex : UInt16) (f f' : LabelFile) : Prop :=
  ∀ offset, f.namesAt scriptIndex offset = f'.namesAt scriptIndex offset

theorem labelsAt_ofScript (d : TextDecoder) (f : LabelFile) (scriptIndex : UInt16) (i : Nat) :
    Nesting.labelsAt
        (LabelIndex.ofScript ⟨f.version, LabelIndex.sortByOffset (f.labels d)⟩ scriptIndex) i =
      (f.namesAt scriptIndex i).map (fun name => Statement.ofLabel (d.decode name).text) := by
  rw [Nesting.labelsAt, LabelIndex.ofScript, List.filter_filter,
    LabelIndex.filter_sortByOffset _ i, labels, List.filter_map, List.map_map, namesAt,
    List.map_map]
  · rfl
  · intro l hl
    exact Nesting.isDue_iff.mp (Bool.and_eq_true_iff.mp hl).1

theorem sorted_ofScript (labels : List Label) (version : UInt32) (scriptIndex : UInt16) :
    Nesting.Sorted
      (LabelIndex.ofScript ⟨version, LabelIndex.sortByOffset labels⟩ scriptIndex) :=
  ((LabelIndex.sorted_sortByOffset labels).filter _).imp UInt32.le_iff_toNat_le.mpr

/-- Files with the same labels for a script nest its statements in the same
way. -/
theorem SameLabels.nest_eq {scriptIndex : UInt16} {f f' : LabelFile}
    (h : SameLabels scriptIndex f f') (d : TextDecoder) (flat : List Statement) :
    (nest (LabelIndex.ofScript ⟨f.version, LabelIndex.sortByOffset (f.labels d)⟩ scriptIndex)
        flat).outcome =
      (nest (LabelIndex.ofScript ⟨f'.version, LabelIndex.sortByOffset (f'.labels d)⟩ scriptIndex)
        flat).outcome := by
  have hlabels : ∀ i, Nesting.labelsAt
      (LabelIndex.ofScript ⟨f.version, LabelIndex.sortByOffset (f.labels d)⟩ scriptIndex) i =
      Nesting.labelsAt
        (LabelIndex.ofScript ⟨f'.version, LabelIndex.sortByOffset (f'.labels d)⟩ scriptIndex) i :=
    fun i => by rw [labelsAt_ofScript, labelsAt_ofScript, h i]
  rw [nest_outcome flat (sorted_ofScript _ _ _), nest_outcome flat (sorted_ofScript _ _ _),
    Nesting.withLabels_congr flat (fun i _ => hlabels i)]

end LabelFile

/-! ## Names -/

namespace VocabularyFile

/-- The names of a file, as bytes. -/
def names (f : VocabularyFile) : List (List UInt8 × List (List UInt8)) :=
  f.commands.map (fun c => (c.name, c.attributes.map AttributeEntry.name))

/-- The same names. -/
def SameNames (f f' : VocabularyFile) : Prop := f.names = f'.names

theorem commands_vocabulary (d : TextDecoder) (f : VocabularyFile) :
    (f.vocabulary d).commands = f.names.map (fun c =>
      ⟨(d.decode c.1).text, c.2.map (fun name => (d.decode name).text)⟩) := by
  rw [vocabulary, names, List.map_map]
  refine List.map_congr_left (fun c _ => ?_)
  rw [CommandEntry.names, Function.comp_apply, List.map_map]
  rfl

end VocabularyFile

/-! ## Scenes -/

namespace Scene

/-- The places of a scene that no statement depends on. -/
inductive Idle (h : Header) (destinations : List Nat) (i : Nat) : Prop where
  /-- The version. -/
  | version (hi : 4 ≤ i ∧ i < 8)
  /-- The size of the line numbers, and what follows it. -/
  | lineNumbers (hi : 0x18 ≤ i ∧ i < dataStart)
  /-- Where the block of an instruction ends. -/
  | blockOffset (k : Nat) (hk : k < h.count.toNat) (hi : i = dataStart + 4 * k + 2)
  /-- The last byte of an instruction. -/
  | unused (k : Nat) (hk : k < h.count.toNat) (hi : i = dataStart + 4 * k + 3)
  /-- The first byte of a type tag. -/
  | tag (j : Nat) (hj : j < h.descriptorCount) (hi : i = h.descriptorsAt + 12 * j + 2)
  /-- The second byte of a type tag, if it tells no operator. -/
  | subType (j : Nat) (hj : j < h.descriptorCount) (hnot : j ∉ destinations)
      (hi : i = h.descriptorsAt + 12 * j + 3)

variable {h : Header} {destinations : List Nat}

theorem not_idle_of_header {i : Nat} (hi : Header.places i) : ¬ Idle h destinations i := by
  have hstart : dataStart = 32 := rfl
  have hat : h.descriptorsAt = dataStart + 4 * h.count.toNat := rfl
  unfold Header.places at hi
  intro hidle
  cases hidle <;> omega

/-- An idle place decides nothing of how a scene is read, if the descriptors
are whole. -/
theorem places_not_idle (hwhole : 12 ∣ h.descriptorSize.toNat) :
    Places (fun i => ¬ Idle h destinations i) h := by
  have hstart : dataStart = 32 := rfl
  have hat : h.descriptorsAt = dataStart + 4 * h.count.toNat := rfl
  have hcount : h.descriptorCount = (h.descriptorSize.toNat + 11) / 12 := rfl
  have hvalues : h.valuesAt = h.descriptorsAt + h.descriptorSize.toNat := rfl
  refine ⟨fun k hk => ⟨?opcode, ?attributeCount⟩, fun j hj n hn h₂ h₃ => ?operand,
    fun i hi => ?value⟩
  -- Places differ in what they are next to a multiple of four or of twelve.
  all_goals
    intro hidle
    cases hidle <;> omega

theorem not_idle_of_destination {j : Nat} (hj : j ∈ destinations) :
    ¬ Idle h destinations (h.descriptorsAt + 12 * j + 3) := by
  have hstart : dataStart = 32 := rfl
  have hat : h.descriptorsAt = dataStart + 4 * h.count.toNat := rfl
  intro hidle
  cases hidle with
  | subType j' _ hnot hi =>
    obtain rfl : j = j' := by omega
    exact hnot hj
  | _ => omega

/-- What is read as a scene has a header. -/
theorem standsIn_of_parse {b : List UInt8} {x : Scene} (hx : (parse b).outcome = .ok x) :
    ∃ h : Header, h.StandsIn b := by
  have hagree := agree_parse (SameAt.refl (fun _ => True) b) (fun _ _ => trivial)
    (fun h _ => places_all h)
  rw [hx] at hagree
  cases hagree with
  | ok hr =>
    obtain ⟨h, _, hs, _⟩ := hr
    exact ⟨h, hs⟩

/-- Buffers of one size that differ at idle places alone. The first is read as
a scene, of whole descriptors. -/
structure DiffersIdly (v : Vocabulary) (d : TextDecoder) (b b' : List UInt8) (h : Header)
    (x : Scene) : Prop where
  header : h.StandsIn b
  whole : 12 ∣ h.descriptorSize.toNat
  read : (parse b).outcome = .ok x
  length : b.length = b'.length
  same : SameAt (fun i => ¬ Idle h (x.destinations v d) i) b b'

/-- Scenes that differ at idle places alone are read, and have the same
statements. -/
theorem DiffersIdly.agree_parse {v : Vocabulary} {d : TextDecoder} {b b' : List UInt8}
    {h : Header} {x : Scene} (hidle : DiffersIdly v d b b' h x) :
    Agree False (fun x y => ∀ v' : Vocabulary, v.commands = v'.commands →
        Agree False Eq (x.flatStatements v d).outcome (y.flatStatements v' d).outcome)
      (parse b).outcome (parse b').outcome := by
  have hplaces : ∀ h' : Header, h'.StandsIn b →
      Places (fun i => ¬ Idle h (x.destinations v d) i) h' := by
    intro h' hs'
    rw [hs'.unique hidle.header]
    exact places_not_idle hidle.whole
  have hagree := Scene.agree_parse hidle.same (fun _ hi => not_idle_of_header hi) hplaces
  rw [hidle.read] at hagree ⊢
  generalize (parse b').outcome = o at hagree ⊢
  cases hagree with
  | ok hr =>
    obtain ⟨h', _, hs', _, _, _, hlike⟩ := hr
    obtain rfl : h' = h := hs'.unique hidle.header
    refine .ok (fun v' hv => agree_flatStatements ?_ ?_)
    · exact hlike.instructions.mono (fun _ _ _ hi => ⟨hv, hi.opcode, hi.attributeCount⟩)
    · exact hlike.attributes.mono (fun _ _ _ ha =>
        ⟨ha.id, ha.value, fun hj => ha.subType (not_idle_of_destination hj)⟩)

end Scene

/-! ## Bundles -/

namespace Bundle

/-- All three resources are read, and the descriptors are whole. -/
structure Accepted (d : TextDecoder) (b : Bundle) : Prop where
  scene : ∃ x, (Scene.parse b.scene).outcome = .ok x
  whole : 12 ∣ (leWord32 (window b.scene 16 4)).toNat
  labels : ∃ index, (LabelIndex.parse d b.labels).outcome = .ok index
  vocabulary : ∃ v, (Vocabulary.parse d b.vocabulary).outcome = .ok v

/-- Bundles whose resources differ in nothing that is used. -/
structure Alike (d : TextDecoder) (scriptIndex : UInt16) (b b' : Bundle) : Prop where
  /-- The scenes differ at idle places alone; the names tell which attributes
  are destinations. -/
  scene : ∃ h x v, (Vocabulary.parse d b.vocabulary).outcome = .ok v ∧
    Scene.DiffersIdly v d b.scene b'.scene h x
  /-- The script has the same labels. -/
  labels : ∃ (f f' : LabelFile) (rest rest' : List UInt8), b.labels = f.bytes ++ rest ∧
    b'.labels = f'.bytes ++ rest' ∧ f.SameLabels scriptIndex f'
  /-- Commands and attributes have the same names. -/
  vocabulary : ∃ (f f' : VocabularyFile) (rest rest' : List UInt8),
    b.vocabulary = f.bytes ++ rest ∧ b'.vocabulary = f'.bytes ++ rest' ∧ f.SameNames f'

theorem Accepted.alike {d : TextDecoder} {b : Bundle} (hb : b.Accepted d)
    (scriptIndex : UInt16) : b.Alike d scriptIndex b := by
  obtain ⟨⟨x, hx⟩, hwhole, ⟨index, hindex⟩, v, hv⟩ := hb
  obtain ⟨h, hs⟩ := Scene.standsIn_of_parse hx
  obtain ⟨labels, rest, hlabels⟩ := LabelFile.of_parse hindex
  obtain ⟨names, rest', hnames⟩ := VocabularyFile.of_parse hv
  rw [← hs.descriptorSize] at hwhole
  exact ⟨⟨h, x, v, hv, hs, hwhole, hx, rfl, SameAt.refl _ _⟩,
    ⟨labels, labels, rest, rest, hlabels, hlabels, fun _ => rfl⟩,
    ⟨names, names, rest', rest', hnames, hnames, rfl⟩⟩

/-- Nothing need stand behind the labels and the names. -/
theorem alike_of_files {d : TextDecoder} {scriptIndex : UInt16} {b : Bundle} {f f' : LabelFile}
    {g g' : VocabularyFile} {scene : List UInt8} (hf : b.labels = f.bytes)
    (hlabels : f.SameLabels scriptIndex f') (hg : b.vocabulary = g.bytes)
    (hnames : g.SameNames g')
    (hscene : ∃ h x v, (Vocabulary.parse d b.vocabulary).outcome = .ok v ∧
      Scene.DiffersIdly v d b.scene scene h x) :
    b.Alike d scriptIndex ⟨scene, f'.bytes, g'.bytes⟩ where
  scene := hscene
  labels := ⟨f, f', [], [], by rw [hf, List.append_nil], (List.append_nil _).symm, hlabels⟩
  vocabulary := ⟨g, g', [], [], by rw [hg, List.append_nil], (List.append_nil _).symm, hnames⟩

theorem Alike.agree_statementsBy {d : TextDecoder} {scriptIndex : UInt16} {b b' : Bundle}
    (h : b.Alike d scriptIndex b') :
    Agree False Eq (b.statementsBy d scriptIndex).outcome
      (b'.statementsBy d scriptIndex).outcome := by
  obtain ⟨header, x, v, hv, hscene⟩ := h.scene
  obtain ⟨f, f', rest, rest', hf, hf', hlabels⟩ := h.labels
  obtain ⟨g, g', _, _, hg, hg', hnames⟩ := h.vocabulary
  have hvocabulary : v = g.vocabulary d := by
    rw [hg, VocabularyFile.outcome_parse_append] at hv
    exact (Except.ok.inj hv).symm
  have hcommands : v.commands = (g'.vocabulary d).commands := by
    rw [hvocabulary, VocabularyFile.commands_vocabulary, VocabularyFile.commands_vocabulary,
      hnames]
  refine Bundle.agree_statementsBy
    (V := fun w w' => w = v ∧ v.commands = w'.commands)
    (L := fun l l' => ∀ flat, (nest (l.ofScript scriptIndex) flat).outcome =
      (nest (l'.ofScript scriptIndex) flat).outcome)
    ?_ ?_ hscene.agree_parse ?_
  · rw [hv, hg', VocabularyFile.outcome_parse_append]
    exact .ok ⟨rfl, hcommands⟩
  · rw [hf, hf', LabelFile.outcome_parse_append, LabelFile.outcome_parse_append]
    exact .ok (hlabels.nest_eq d)
  · rintro _ w' l l' y y' ⟨rfl, hw⟩ hl hy
    refine (hy w' hw).traced ?_
    rintro flat _ _ rfl
    exact .of_eq (hl flat)

/-- **Only what is used matters.** Every accepted bundle is alike to itself, and
to all bundles that differ from it only in what is not used; all of these have
one listing, or fail for one reason. -/
theorem listing_of_alike (s : Settings) (b : Bundle) :
    (b.Accepted s.encoding.decoder → b.Alike s.encoding.decoder s.scriptIndex b) ∧
      ∀ b', b.Alike s.encoding.decoder s.scriptIndex b' →
        (b.listing s).outcome = (b'.listing s).outcome :=
  ⟨fun hb => hb.alike s.scriptIndex, fun _ h => (agree_listing h.agree_statementsBy).eq⟩

end Bundle

/-! ## A bundle with other idle bytes -/

theorem SameAt.set {S : Nat → Prop} {b b' : List UInt8} (h : SameAt S b b') {p : Nat}
    (hp : ¬ S p) (x : UInt8) : SameAt S b (b'.set p x) := by
  refine ⟨by simpa using h.le, fun i hi hS => ?_⟩
  have hne : p ≠ i := fun heq => hp (heq ▸ hS)
  rw [List.getElem?_set_ne hne]
  exact h.bytes i hi hS

namespace Sample

/-- The masked scene with another version, size of line numbers, end of a block
and last byte of an instruction, and with another tag for the destination and
for the source of its assignment. -/
def idleScene : List UInt8 :=
  (((((bundle.scene.set 5 0xAA).set 0x1A 0xBB).set 38 0xCC).set 35 0xDD).set 74 0xEE).set 87 0xFF

/-- The labels of the script in another order and with other numbers, and
those of the other script gone. -/
def idleLabels : LabelFile where
  version := 500
  ranges := List.replicate LabelIndex.rangeTableSize 1
  ranges_size := List.length_replicate
  records := (labels.records.filter (·.scriptIndex == 3)).reverse.map
    (fun r => { r with id := 7, unused := 9 })
  few := by decide

def idleNames : VocabularyFile := { names with version := 0, unused := 7 }

def idleBundle : Bundle := ⟨idleScene, idleLabels.bytes, idleNames.bytes⟩

theorem sameLabels_idleLabels : labels.SameLabels 3 idleLabels := by
  intro offset
  by_cases hmain : 0 = offset
  · subst hmain
    decide
  · by_cases htail : 10 = offset
    · subst htail
      decide
    · -- At every other offset the script has no label.
      simp [LabelFile.namesAt, labels, idleLabels, hmain, htail]

theorem sameNames_idleNames : names.SameNames idleNames := rfl

theorem whole_sceneFile : 12 ∣ compilation.sceneFile.declared.descriptorSize.toNat := by
  rw [SceneFile.declared, UInt32.toNat_ofNat_of_lt' compilation.sceneFile.descriptors_fit]
  exact Nat.dvd_mul_right 12 _

theorem differsIdly_idleScene :
    Scene.DiffersIdly vocabulary Encoding.utf8.decoder bundle.scene idleScene
      compilation.sceneFile.declared compilation.sceneFile.scene where
  header := ⟨by decide +kernel, by decide +kernel, by decide +kernel, by decide +kernel,
    by decide +kernel⟩
  whole := whole_sceneFile
  read := by
    rw [bundle, Compilation.scene_bundle]
    exact compilation.sceneFile.outcome_parse 0x2F5CA1E3
  length := by simp [idleScene]
  same := by
    refine ((((((SameAt.refl _ _).set ?_ _).set ?_ _).set ?_ _).set ?_ _).set ?_ _).set ?_ _
    · exact fun hbusy => hbusy (.version (by decide))
    · exact fun hbusy => hbusy (.lineNumbers (by decide))
    · exact fun hbusy => hbusy (.blockOffset 1 (by decide +kernel) (by decide +kernel))
    · exact fun hbusy => hbusy (.unused 0 (by decide +kernel) (by decide +kernel))
    · exact fun hbusy => hbusy (.tag 0 (by decide +kernel) (by decide +kernel))
    · exact fun hbusy => hbusy (.subType 1 (by decide +kernel) (by decide +kernel)
        (by decide +kernel))

theorem labels_bundle : bundle.labels = compilation.labels.bytes := compilation.labels_bundle _

theorem vocabulary_bundle : bundle.vocabulary = compilation.names.bytes :=
  compilation.vocabulary_bundle _

theorem accepted_bundle : bundle.Accepted Encoding.utf8.decoder where
  scene := ⟨_, differsIdly_idleScene.read⟩
  whole := differsIdly_idleScene.header.descriptorSize ▸ whole_sceneFile
  labels := ⟨_, labels_bundle ▸ compilation.labels.outcome_parse _⟩
  vocabulary := ⟨_, vocabulary_bundle ▸ compilation.names.outcome_parse _⟩

theorem alike_idleBundle : bundle.Alike Encoding.utf8.decoder 3 idleBundle := by
  refine Bundle.alike_of_files labels_bundle sameLabels_idleLabels vocabulary_bundle
    sameNames_idleNames ⟨_, _, _, ?_, differsIdly_idleScene⟩
  rw [vocabulary_bundle]
  exact compilation.names.outcome_parse _

end Sample

theorem Bundle.listing_of_alike_sample :
    Sample.bundle.Accepted Encoding.utf8.decoder ∧ Sample.idleBundle ≠ Sample.bundle ∧
      Sample.bundle.Alike Encoding.utf8.decoder 3 Sample.bundle ∧
      Sample.bundle.Alike Encoding.utf8.decoder 3 Sample.idleBundle ∧
      (Sample.idleBundle.listing ⟨3, .utf8⟩).outcome =
        .ok (Statement.scriptListing Sample.compilation.statements) := by
  have hchanged : Sample.idleBundle ≠ Sample.bundle := by
    intro heq
    exact absurd (congrArg (fun b => b.scene[5]?) heq) (by decide +kernel)
  refine ⟨Sample.accepted_bundle, hchanged,
    (listing_of_alike ⟨3, .utf8⟩ Sample.bundle).1 Sample.accepted_bundle,
    Sample.alike_idleBundle, ?_⟩
  rw [← (listing_of_alike ⟨3, .utf8⟩ Sample.bundle).2 _ Sample.alike_idleBundle]
  exact Sample.listing_bundle

end SceneScript
