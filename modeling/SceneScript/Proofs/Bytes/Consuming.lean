import SceneScript.Proofs.Bytes.Reading

/-
  What a parser has gone over. `Parser.Consumes p Form` says that wherever `p`
  succeeds, the bytes between its start and its stop have the form `Form`,
  which also tells what they are read as. It is the other half of
  `Parser.Reads`, with a closure algebra of the same shape; together they say
  that a reader accepts what its format writes and nothing else.
-/

namespace SceneScript

/-- Both steps of a computation that succeeds have succeeded. -/
theorem Traced.steps_of_ok {α β : Type} {x : Traced α} {f : α → Traced β} {y : β}
    (h : (x >>= f).outcome = .ok y) : ∃ a, x.outcome = .ok a ∧ (f a).outcome = .ok y := by
  rw [Traced.outcome_bind] at h
  cases hx : x.outcome with
  | error e =>
    rw [hx] at h
    cases h
  | ok a =>
    rw [hx] at h
    exact ⟨a, rfl, h⟩

namespace Parser

variable {α β : Type}

/-- Wherever `p` succeeds, it has gone over bytes of the form `Form`. -/
def Consumes (p : Parser α) (Form : List UInt8 → α → Prop) : Prop :=
  ∀ (buffer : List UInt8) (start : Nat) (x : α) (r : Reader),
    (p ⟨buffer.toArray, start⟩).outcome = .ok (x, r) →
    ∃ bytes rest, buffer.drop start = bytes ++ rest ∧
      r = ⟨buffer.toArray, start + bytes.length⟩ ∧ Form bytes x

variable {Form : List UInt8 → α → Prop} {Whole : List UInt8 → β → Prop}

namespace Consumes

theorem mono {p : Parser α} {Form' : List UInt8 → α → Prop} (hp : Consumes p Form)
    (h : ∀ bytes x, Form bytes x → Form' bytes x) : Consumes p Form' := by
  intro buffer start x r hok
  obtain ⟨bytes, rest, hdrop, hr, hform⟩ := hp buffer start x r hok
  exact ⟨bytes, rest, hdrop, hr, h bytes x hform⟩

theorem pure {x : α} (h : Form [] x) : Consumes (Pure.pure x) Form := by
  rintro buffer start _ _ ⟨rfl, rfl⟩
  exact ⟨[], buffer.drop start, rfl, rfl, h⟩

theorem bind {p : Parser α} {f : α → Parser β} (hp : Consumes p Form)
    (hf : ∀ a x, Form a x → Consumes (f x) (fun b y => Whole (a ++ b) y)) :
    Consumes (p >>= f) Whole := by
  intro buffer start y r h
  obtain ⟨⟨x, mid⟩, hx, hy⟩ :=
    Traced.steps_of_ok (f := fun step : α × Reader => f step.1 step.2) h
  obtain ⟨a, rest, hdrop, rfl, hform⟩ := hp buffer start x mid hx
  obtain ⟨b, rest', hdrop', rfl, hwhole⟩ := hf a x hform buffer (start + a.length) y r hy
  have hrest : rest = b ++ rest' := by
    rw [← hdrop', ← List.drop_drop, hdrop, List.drop_left]
  refine ⟨a ++ b, rest', ?_, ?_, hwhole⟩
  · rw [hdrop, hrest, List.append_assoc]
  · rw [List.length_append, Nat.add_assoc]

theorem map {p : Parser α} {f : α → β} (hp : Consumes p Form)
    (hf : ∀ a x, Form a x → Whole a (f x)) : Consumes (do return f (← p)) Whole :=
  hp.bind (fun a x h => pure (by rw [List.append_nil]; exact hf a x h))

/-- A step that reads nothing. -/
theorem lift (t : Traced α) :
    Consumes (liftM t) (fun bytes x => bytes = [] ∧ t.outcome = .ok x) := by
  intro buffer start x r h
  rw [outcome_lift] at h
  cases ht : t.outcome with
  | error e =>
    rw [ht] at h
    cases h
  | ok y =>
    rw [ht] at h
    cases h
    exact ⟨[], buffer.drop start, rfl, rfl, rfl, rfl⟩

/-- A report after the last thing that is read. -/
theorem reported {p : Parser α} {event : α → Event} {f : α → β} (hp : Consumes p Form)
    (hf : ∀ a x, Form a x → Whole a (f x)) :
    Consumes (do let y ← p; Traced.report (event y); return f y) Whole := by
  refine hp.bind (fun a x h => (lift (Traced.report (event x))).map ?_)
  rintro _ _ ⟨rfl, _⟩
  rw [List.append_nil]
  exact hf a x h

/-- What a byte string begins with, if a parser succeeds on it. -/
theorem runOn {p : Parser α} (hp : Consumes p Form) {bytes : List UInt8} {x : α}
    (h : (runOn p bytes).outcome = .ok x) :
    ∃ first rest, bytes = first ++ rest ∧ Form first x := by
  unfold Parser.runOn at h
  rw [map_eq_pure_bind] at h
  obtain ⟨⟨_, r⟩, hok, heq⟩ := Traced.steps_of_ok h
  cases heq
  obtain ⟨first, rest, hdrop, _, hform⟩ := hp bytes 0 _ r hok
  exact ⟨first, rest, hdrop, hform⟩

end Consumes

theorem consumes_take (n : Nat) : Consumes (take n) (fun bytes x => bytes = x ∧ x.length = n) := by
  intro buffer start x r h
  unfold take at h
  split at h
  · next hle =>
    have hlen : (((buffer.drop start).take n)).length = n := by
      simp at hle ⊢
      omega
    cases h
    refine ⟨(buffer.drop start).take n, (buffer.drop start).drop n,
      (List.take_append_drop n _).symm, ?_, ?_, ?_⟩
    · rw [hlen]
    · rw [Reader.peek_eq]
    · rw [Reader.peek_eq]
      exact hlen
  · cases h

theorem consumes_skip (n : Nat) : Consumes (skip n) (fun bytes _ => bytes.length = n) :=
  (consumes_take n).map (fun a _ h => by rw [h.1]; exact h.2)

theorem consumes_byte : Consumes byte (fun bytes x => bytes = [x]) := by
  refine (consumes_take 1).map ?_
  rintro _ x ⟨rfl, hlen⟩
  obtain ⟨b, rfl⟩ := List.length_eq_one_iff.mp hlen
  simp [leNat]

theorem consumes_word16 : Consumes word16 (fun bytes x => bytes = leBytes 2 x.toNat) := by
  refine (consumes_take 2).map ?_
  rintro _ x ⟨rfl, hlen⟩
  exact (leBytes_leWord16 hlen).symm

theorem consumes_word32 : Consumes word32 (fun bytes x => bytes = leBytes 4 x.toNat) := by
  refine (consumes_take 4).map ?_
  rintro _ x ⟨rfl, hlen⟩
  exact (leBytes_leWord32 hlen).symm

theorem consumes_magic (resource : Resource) :
    Consumes (magic resource) (fun bytes _ => bytes = resource.magicBytes) := by
  refine (consumes_take 4).bind ?_
  rintro _ x ⟨rfl, _⟩
  split
  · next heq => exact Consumes.pure (by rw [List.append_nil, heq])
  · rintro _ _ _ _ ⟨⟩

theorem consumes_text (d : TextDecoder) (n : Nat) :
    Consumes (text d n) (fun bytes x => bytes.length = n ∧ x = (d.decode bytes).text) := by
  refine (consumes_take n).bind ?_
  rintro bytes _ ⟨rfl, hlen⟩
  refine (Consumes.lift (d.read bytes)).mono ?_
  rintro _ t ⟨rfl, ht⟩
  rw [TextDecoder.outcome_read] at ht
  cases ht
  rw [List.append_nil]
  exact ⟨hlen, rfl⟩

/-- Text up to a zero byte has no zero byte in it. -/
theorem consumes_terminated (d : TextDecoder) :
    Consumes (terminated d) (fun bytes x => ∃ name, 0 ∉ name ∧ bytes = name ++ [0] ∧
      x = (d.decode name).text) := by
  intro buffer start x r h
  let len := ((buffer.drop start).takeWhile (· ≠ 0)).length
  have hread : Consumes (do let t ← text d len; skip 1; return t)
      (fun bytes t => ∃ name last, bytes = name ++ last ∧ name.length = len ∧ last.length = 1 ∧
        t = (d.decode name).text) :=
    (consumes_text d len).bind (fun a t ha => (consumes_skip 1).map
      (fun b _ hb => ⟨a, b, rfl, ha.1, hb, ha.2⟩))
  have hget : ReadsAt get buffer start ⟨buffer.toArray, start⟩ start := rfl
  replace h := (hget.outcome_bind _).symm.trans h
  rw [peek_remaining] at h
  split at h
  · obtain ⟨_, rest, hdrop, hr, name, last, rfl, hname, hlast, hx⟩ := hread buffer start x r h
    obtain ⟨z, rfl⟩ := List.length_eq_one_iff.mp hlast
    -- The name is what stands before the first zero byte, and that byte follows it.
    have hsplit := (List.takeWhile_append_dropWhile (p := fun c : UInt8 => decide (c ≠ 0))
      (l := buffer.drop start)).trans hdrop
    rw [List.append_assoc] at hsplit
    obtain ⟨hbefore, hafter⟩ := List.append_inj hsplit hname.symm
    have hzero : z = 0 := by
      have hhead := List.head?_dropWhile_not (fun c : UInt8 => decide (c ≠ 0))
        (buffer.drop start)
      rw [hafter] at hhead
      simpa using hhead
    refine ⟨name ++ [z], rest, hdrop, hr, name, ?_, by rw [hzero], hx⟩
    intro hmem
    rw [← hbefore] at hmem
    simpa using List.all_eq_true.mp List.all_takeWhile 0 hmem
  · cases h

/-! ## Repetition -/

theorem consumes_times {ι : Type} {p : Parser α} {write : ι → List UInt8} {value : ι → α}
    (h : Consumes p (fun bytes x => ∃ i, bytes = write i ∧ x = value i)) (n : Nat) :
    Consumes (times n p) (fun bytes xs => ∃ items : List ι, items.length = n ∧
      bytes = items.flatMap write ∧ xs = items.map value) := by
  induction n with
  | zero => exact Consumes.pure ⟨[], rfl, rfl, rfl⟩
  | succ n ih =>
    refine h.bind ?_
    rintro _ _ ⟨i, rfl, rfl⟩
    refine ih.map ?_
    rintro _ _ ⟨items, rfl, rfl, rfl⟩
    exact ⟨i :: items, rfl, rfl, rfl⟩

end Parser

end SceneScript
