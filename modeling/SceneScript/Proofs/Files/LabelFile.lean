import SceneScript.LabelIndex
import SceneScript.Proofs.Bytes.Reading

/-
  Label files as data: what a file says (`LabelFile`), its bytes, and the
  labels a decoder finds in it. Reading the bytes gives the labels back by
  ascending offset (`LabelFile.outcome_parse`). Of equal offsets the file order
  stays, so of the labels of one script the file has to order only those at one
  offset (`LabelFile.map_mark_ofScript`).
-/

namespace SceneScript

structure LabelRecord where
  name : List UInt8
  short : name.length < 2 ^ 8
  id : UInt32
  offset : UInt32
  scriptIndex : UInt16
  unused : UInt16

/-- What a label file says. -/
structure LabelFile where
  version : UInt32
  ranges : List UInt8
  ranges_size : ranges.length = LabelIndex.rangeTableSize
  records : List LabelRecord
  few : records.length < 2 ^ 32

def LabelRecord.bytes (r : LabelRecord) : List UInt8 :=
  [UInt8.ofNat r.name.length] ++ (r.name ++ (leBytes 4 r.id.toNat ++
    (leBytes 4 r.offset.toNat ++ (leBytes 2 r.scriptIndex.toNat ++ leBytes 2 r.unused.toNat))))

def LabelRecord.label (d : TextDecoder) (r : LabelRecord) : Label :=
  ⟨(d.decode r.name).text, r.id, r.offset, r.scriptIndex⟩

theorem LabelRecord.reads (d : TextDecoder) (r : LabelRecord) :
    Parser.Reads (LabelIndex.readLabel d) r.bytes (r.label d) := by
  have hname : r.name.length = (UInt8.ofNat r.name.length).toNat :=
    (UInt8.toNat_ofNat_of_lt' r.short).symm
  exact (Parser.reads_byte _).bind ((Parser.reads_text d hname).bind
    ((Parser.reads_word32 r.id).bind ((Parser.reads_word32 r.offset).bind
      ((Parser.reads_word16 r.scriptIndex).bind
        ((Parser.reads_skip (length_leBytes 2 _)).map (fun _ => r.label d))))))

namespace LabelFile

def bytes (f : LabelFile) : List UInt8 :=
  Resource.labels.magicBytes ++ (leBytes 4 f.version.toNat ++ (leBytes 4 f.records.length ++
    (f.ranges ++ f.records.flatMap LabelRecord.bytes)))

/-- The labels of a label file, in file order. -/
def labels (d : TextDecoder) (f : LabelFile) : List Label := f.records.map (LabelRecord.label d)

theorem reads (d : TextDecoder) (f : LabelFile) :
    Parser.Reads (LabelIndex.read d) f.bytes ⟨f.version, LabelIndex.sortByOffset (f.labels d)⟩ := by
  have hrecords : Parser.Reads
      (Parser.times (UInt32.ofNat f.records.length).toNat (LabelIndex.readLabel d))
      (f.records.flatMap LabelRecord.bytes) (f.labels d) := by
    rw [UInt32.toNat_ofNat_of_lt' f.few]
    exact Parser.reads_times (fun r _ => r.reads d)
  exact (Parser.reads_magic .labels).bind ((Parser.reads_word32 f.version).bind
    ((Parser.reads_number f.few).bind ((Parser.reads_skip f.ranges_size).bind
      (hrecords.reported (fun labels => .labelsRead f.version labels.length)
        (fun labels => LabelIndex.mk f.version (LabelIndex.sortByOffset labels))))))

/-- Reading a label file gives its labels by ascending offset. -/
theorem outcome_parse (d : TextDecoder) (f : LabelFile) :
    (LabelIndex.parse d f.bytes).outcome =
      .ok ⟨f.version, LabelIndex.sortByOffset (f.labels d)⟩ :=
  (f.reads d).runOn

end LabelFile

/-! ## The labels of one script -/

theorem key_le_of_filter {α : Type} {key : α → Nat} {x y : α} {xs ys : List α}
    (hys : (y :: ys).Pairwise (fun a b => key a ≤ key b))
    (h : (x :: xs).filter (key · == key x) = (y :: ys).filter (key · == key x)) :
    key y ≤ key x := by
  have hx : x ∈ (y :: ys).filter (key · == key x) := by
    rw [← h]
    exact List.mem_filter.mpr ⟨List.mem_cons_self, beq_self_eq_true _⟩
  rcases List.mem_cons.mp (List.mem_filter.mp hx).1 with rfl | hx
  · exact Nat.le_refl _
  · exact (List.pairwise_cons.mp hys).1 x hx

/-- Two lists in ascending order of a key that agree at every key are the same. -/
theorem eq_of_filter_key {α : Type} {key : α → Nat} {as bs : List α}
    (ha : as.Pairwise (fun x y => key x ≤ key y)) (hb : bs.Pairwise (fun x y => key x ≤ key y))
    (h : ∀ k, as.filter (key · == k) = bs.filter (key · == k)) : as = bs := by
  induction as generalizing bs with
  | nil =>
    cases bs with
    | nil => rfl
    | cons b bs => simpa using h (key b)
  | cons a as ih =>
    cases bs with
    | nil => simpa using h (key a)
    | cons b bs =>
      -- Each head has the least key of its list, so both lead the class of that key.
      have hkey : key a = key b :=
        Nat.le_antisymm (key_le_of_filter ha (h (key b)).symm) (key_le_of_filter hb (h (key a)))
      have hhead := h (key a)
      rw [List.filter_cons_of_pos (by simp), List.filter_cons_of_pos (by simp [hkey])] at hhead
      obtain ⟨rfl, _⟩ := List.cons.inj hhead
      have htail : as = bs := by
        refine ih (List.pairwise_cons.mp ha).2 (List.pairwise_cons.mp hb).2 (fun k => ?_)
        have hk := h k
        rw [List.filter_cons, List.filter_cons] at hk
        by_cases hak : (key a == k) = true
        · rw [if_pos hak, if_pos hak] at hk
          exact (List.cons.inj hk).2
        · rw [if_neg hak, if_neg hak] at hk
          exact hk
      rw [htail]

/-- The name of a label and the number of the instruction it stands before. -/
def Label.mark (l : Label) : String × Nat := (l.name, l.offset.toNat)

namespace LabelIndex

theorem byOffset_trans (a b c : Label) (hab : decide (a.offset.toNat ≤ b.offset.toNat) = true)
    (hbc : decide (b.offset.toNat ≤ c.offset.toNat) = true) :
    decide (a.offset.toNat ≤ c.offset.toNat) = true :=
  decide_eq_true (Nat.le_trans (of_decide_eq_true hab) (of_decide_eq_true hbc))

theorem byOffset_total (a b : Label) :
    (decide (a.offset.toNat ≤ b.offset.toNat) || decide (b.offset.toNat ≤ a.offset.toNat)) =
      true := by
  simp only [Bool.or_eq_true, decide_eq_true_eq]
  exact Nat.le_total _ _

theorem sorted_sortByOffset (labels : List Label) :
    (sortByOffset labels).Pairwise (fun a b => a.offset.toNat ≤ b.offset.toNat) :=
  (List.pairwise_mergeSort byOffset_trans byOffset_total labels).imp
    (fun hle => of_decide_eq_true hle)

/-- Sorting keeps the order of labels at one offset. -/
theorem filter_sortByOffset (labels : List Label) (offset : Nat) {p : Label → Bool}
    (hp : ∀ l, p l = true → l.offset.toNat = offset) :
    (sortByOffset labels).filter p = labels.filter p := by
  -- Labels at one offset are in order as they are, so sorting keeps them as a sublist.
  have hequal : (labels.filter p).Pairwise
      (fun a b => decide (a.offset.toNat ≤ b.offset.toNat) = true) := by
    refine List.pairwise_of_forall_mem_list (fun a ha b hb => decide_eq_true ?_)
    have hab : a.offset.toNat = b.offset.toNat :=
      (hp a (List.mem_filter.mp ha).2).trans (hp b (List.mem_filter.mp hb).2).symm
    exact Nat.le_of_eq hab
  have hsub : (labels.filter p).Sublist (sortByOffset labels) :=
    List.sublist_mergeSort byOffset_trans byOffset_total hequal List.filter_sublist
  have hfiltered := hsub.filter p
  rw [List.filter_filter] at hfiltered
  simp only [Bool.and_self] at hfiltered
  have hperm : (labels.filter p).length = ((sortByOffset labels).filter p).length :=
    ((List.mergeSort_perm labels _).filter p).length_eq.symm
  exact (hfiltered.eq_of_length hperm).symm

/-- The same labels by ascending offset, labels at one offset in the same order. -/
structure StablySorted (labels sorted : List Label) : Prop where
  perm : sorted.Perm labels
  ascending : sorted.Pairwise (fun a b => a.offset.toNat ≤ b.offset.toNat)
  stable : ∀ offset, sorted.filter (·.offset.toNat == offset) =
    labels.filter (·.offset.toNat == offset)

/-- There is only one such order. -/
theorem StablySorted.unique {labels first second : List Label} (hf : StablySorted labels first)
    (hs : StablySorted labels second) : first = second :=
  eq_of_filter_key hf.ascending hs.ascending (fun k => (hf.stable k).trans (hs.stable k).symm)

end LabelIndex

namespace LabelFile

/-- At each offset a file has, for a script, the given marks in the given
order. Labels of other scripts and of other offsets may stand between them. -/
def Marks (f : LabelFile) (d : TextDecoder) (scriptIndex : UInt16)
    (marks : List (String × Nat)) : Prop :=
  ∀ offset : Nat, (((f.labels d).filter (·.scriptIndex == scriptIndex)).map Label.mark).filter
    (·.2 == offset) = marks.filter (·.2 == offset)

/-- The labels of a script, as read, are its marks in order. -/
theorem map_mark_ofScript {f : LabelFile} {d : TextDecoder} {scriptIndex : UInt16}
    {marks : List (String × Nat)} (h : f.Marks d scriptIndex marks)
    (hs : marks.Pairwise (fun a b => a.2 ≤ b.2)) (version : UInt32) :
    (LabelIndex.ofScript ⟨version, LabelIndex.sortByOffset (f.labels d)⟩ scriptIndex).map
      Label.mark = marks := by
  have hsorted : ((LabelIndex.ofScript ⟨version, LabelIndex.sortByOffset (f.labels d)⟩
      scriptIndex).map Label.mark).Pairwise (fun a b => a.2 ≤ b.2) :=
    List.pairwise_map.mpr ((LabelIndex.sorted_sortByOffset (f.labels d)).filter _)
  refine eq_of_filter_key hsorted hs (fun offset => ?_)
  rw [← h offset, List.filter_map, List.filter_map, LabelIndex.ofScript, List.filter_filter,
    List.filter_filter, LabelIndex.filter_sortByOffset _ offset]
  intro l hl
  simpa [Label.mark] using (Bool.and_eq_true_iff.mp hl).1

end LabelFile

end SceneScript
