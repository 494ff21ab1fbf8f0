import SceneScript.Proofs.Bytes.TwoBuffers

/-
  Failing for want of bytes. `Parser.RunsOut` says that a parser asks for bytes
  its buffer does not have. `Parser.ReadsIf` says of one place when it does:
  it names the condition under which the parser goes on, and what it returns
  then. Where the places depend on the bytes, `Parser.OnlyRunsOut` still says
  that a parser fails for no other reason. Both have a closure algebra (`pure`,
  `bind`, `map`, a counted repetition). The magic is the one thing that a file
  can be refused for before it runs out (`Parser.runOn_or`).
-/

namespace SceneScript

/-- The four bytes that a file of `resource` should begin with are others. -/
structure WrongMagic (resource : Resource) (bytes : List UInt8) : Prop where
  long : 4 ≤ bytes.length
  other : bytes.take 4 ≠ resource.magicBytes

theorem take_of_not_wrongMagic {resource : Resource} {bytes : List UInt8}
    (h : ¬ WrongMagic resource bytes) (hlong : 4 ≤ bytes.length) :
    bytes.take 4 = resource.magicBytes := by
  by_contra hother
  exact h ⟨hlong, hother⟩

namespace Parser

variable {α β : Type} {p : Parser α} {buffer : List UInt8} {start : Nat}

/-- `p` asks for more bytes than there are. -/
def RunsOut (p : Parser α) (buffer : List UInt8) (start : Nat) : Prop :=
  ∃ offset len, (p ⟨buffer.toArray, start⟩).outcome =
    .error (.outOfBounds offset len buffer.length)

theorem runsOut_take {n : Nat} (h : buffer.length < start + n) :
    RunsOut (take n) buffer start := by
  refine ⟨start, n, ?_⟩
  unfold take
  rw [if_neg (by simpa using h)]
  rfl

theorem outcome_bind_of_error {r : Reader} {e : Fault} (h : (p r).outcome = .error e)
    (f : α → Parser β) : ((p >>= f) r).outcome = .error e := by
  show (p r >>= fun result => f result.1 result.2).outcome = _
  rw [Traced.outcome_bind, h]
  rfl

theorem RunsOut.bind (h : RunsOut p buffer start) (f : α → Parser β) :
    RunsOut (p >>= f) buffer start := by
  obtain ⟨offset, len, hp⟩ := h
  exact ⟨offset, len, outcome_bind_of_error hp f⟩

theorem RunsOut.after {f : α → Parser β} {mid : Nat} {x : α}
    (hp : ReadsAt p buffer start x mid) (h : RunsOut (f x) buffer mid) :
    RunsOut (p >>= f) buffer start := by
  obtain ⟨offset, len, hf⟩ := h
  exact ⟨offset, len, (hp.outcome_bind f).trans hf⟩

/-! ## When there are enough bytes -/

/-- If `c` holds, `p` goes from `start` to `stop` and returns `x`; if not, it
runs out of bytes. -/
structure ReadsIf (p : Parser α) (buffer : List UInt8) (start : Nat) (c : Prop) (x : α)
    (stop : Nat) : Prop where
  reads : c → ReadsAt p buffer start x stop
  runsOut : ¬ c → RunsOut p buffer start

namespace ReadsIf

variable {c c' : Prop} {x x' : α} {y : β} {mid stop : Nat}

theorem congr (h : ReadsIf p buffer start c x stop) (hc : c ↔ c') (hx : c → x = x') :
    ReadsIf p buffer start c' x' stop := by
  constructor
  · intro hc'
    rw [← hx (hc.mpr hc')]
    exact h.reads (hc.mpr hc')
  · intro hnot
    exact h.runsOut (fun hyes => hnot (hc.mp hyes))

theorem pure (x : α) : ReadsIf (Pure.pure x) buffer start True x start :=
  ⟨fun _ => ReadsAt.pure x, fun hnot => absurd trivial hnot⟩

theorem bind {f : α → Parser β} (hp : ReadsIf p buffer start c x mid)
    (hf : c → ReadsIf (f x) buffer mid c' y stop) :
    ReadsIf (p >>= f) buffer start (c ∧ c') y stop := by
  constructor
  · intro h
    exact (hp.reads h.1).bind ((hf h.1).reads h.2)
  · intro hnot
    by_cases hc : c
    · exact RunsOut.after (hp.reads hc) ((hf hc).runsOut (fun hc' => hnot ⟨hc, hc'⟩))
    · exact (hp.runsOut hc).bind f

theorem map (hp : ReadsIf p buffer start c x stop) (f : α → β) :
    ReadsIf (do return f (← p)) buffer start c (f x) stop :=
  (hp.bind (fun _ => pure (f x))).congr (and_iff_left trivial) (fun _ => rfl)

theorem aside (hp : ReadsIf p buffer start c x stop) :
    ReadsIf (aside p) buffer start c x start := by
  constructor
  · intro hc
    exact (hp.reads hc).aside
  · intro hnot
    obtain ⟨offset, len, hout⟩ := hp.runsOut hnot
    refine ⟨offset, len, ?_⟩
    unfold Parser.aside
    rw [map_eq_pure_bind, Traced.outcome_bind, hout]
    rfl

end ReadsIf

theorem readsIf_take (n : Nat) :
    ReadsIf (take n) buffer start (start + n ≤ buffer.length) (window buffer start n)
      (start + n) := by
  constructor
  · intro hle
    unfold ReadsAt take
    rw [if_pos (by simpa using hle), Reader.peek_eq]
    rfl
  · intro hnot
    exact runsOut_take (by omega)

theorem readsIf_seek (target : Nat) :
    ReadsIf (seek target) buffer start (target ≤ buffer.length) () target := by
  constructor
  · intro hle
    exact ReadsAt.seek hle
  · intro hnot
    refine ⟨target, 0, ?_⟩
    unfold seek
    rw [if_neg (by simpa using hnot)]
    rfl

theorem readsIf_skip (n : Nat) :
    ReadsIf (skip n) buffer start (start + n ≤ buffer.length) () (start + n) :=
  (readsIf_take n).map (fun _ => ())

theorem readsIf_byte :
    ReadsIf byte buffer start (start + 1 ≤ buffer.length) (buffer.getD start 0) (start + 1) := by
  refine ((readsIf_take 1).map (fun bytes => UInt8.ofNat (leNat bytes))).congr Iff.rfl ?_
  intro hle
  rw [window_one (by omega)]
  simp [leNat]

theorem readsIf_word16 :
    ReadsIf word16 buffer start (start + 2 ≤ buffer.length) (leWord16 (window buffer start 2))
      (start + 2) :=
  (readsIf_take 2).map leWord16

theorem readsIf_word32 :
    ReadsIf word32 buffer start (start + 4 ≤ buffer.length) (leWord32 (window buffer start 4))
      (start + 4) :=
  (readsIf_take 4).map leWord32

/-- A table of `n` items of `width` bytes each. -/
theorem readsIf_times {c : Nat → Prop} {x : Nat → α} {width n : Nat}
    (h : ∀ j, j < n → ReadsIf p buffer (start + width * j) (c j) (x j)
      (start + width * j + width)) :
    ReadsIf (times n p) buffer start (∀ j, j < n → c j) ((List.range n).map x)
      (start + width * n) := by
  induction n generalizing start c x with
  | zero => exact (ReadsIf.pure []).congr (by simp) (fun _ => rfl)
  | succ n ih =>
    have hfirst := h 0 (Nat.zero_lt_succ n)
    rw [Nat.mul_zero, Nat.add_zero] at hfirst
    -- Item number `j` of the rest is number `j + 1` of all.
    have hrest : ReadsIf (times n p) buffer (start + width) (∀ j, j < n → c (j + 1))
        ((List.range n).map (fun j => x (j + 1))) (start + width + width * n) := by
      apply ih
      intro j hj
      have hnext := h (j + 1) (Nat.succ_lt_succ hj)
      rw [Nat.mul_succ, Nat.add_comm (width * j), ← Nat.add_assoc] at hnext
      exact hnext
    have hboth : ReadsIf (times (n + 1) p) buffer start (c 0 ∧ ∀ j, j < n → c (j + 1))
        (x 0 :: (List.range n).map (fun j => x (j + 1))) (start + width + width * n) :=
      hfirst.bind (fun _ => hrest.map (fun items => x 0 :: items))
    rw [Nat.add_assoc, Nat.add_comm width, ← Nat.mul_succ] at hboth
    refine hboth.congr ?_ (fun _ => ?_)
    · constructor
      · intro hc j hj
        cases j with
        | zero => exact hc.1
        | succ j => exact hc.2 j (Nat.lt_of_succ_lt_succ hj)
      · intro hc
        exact ⟨hc 0 (Nat.zero_lt_succ n), fun j hj => hc (j + 1) (Nat.succ_lt_succ hj)⟩
    · rw [List.range_succ_eq_map, List.map_cons, List.map_map]
      rfl

/-! ## Failing for no other reason -/

/-- Wherever `p` fails, it has run out of bytes. -/
def OnlyRunsOut (p : Parser α) : Prop :=
  ∀ (buffer : List UInt8) (start : Nat),
    (∃ x stop, ReadsAt p buffer start x stop) ∨ RunsOut p buffer start

namespace OnlyRunsOut

theorem pure (x : α) : OnlyRunsOut (Pure.pure x) :=
  fun _ start => .inl ⟨x, start, ReadsAt.pure x⟩

theorem bind {f : α → Parser β} (hp : OnlyRunsOut p) (hf : ∀ x, OnlyRunsOut (f x)) :
    OnlyRunsOut (p >>= f) := by
  intro buffer start
  rcases hp buffer start with ⟨x, mid, hx⟩ | hout
  · rcases hf x buffer mid with ⟨y, stop, hy⟩ | hout
    · exact .inl ⟨y, stop, hx.bind hy⟩
    · exact .inr (RunsOut.after hx hout)
  · exact .inr (hout.bind f)

theorem map (hp : OnlyRunsOut p) (f : α → β) : OnlyRunsOut (do return f (← p)) :=
  hp.bind (fun x => pure (f x))

/-- A step that only reports. -/
theorem lift {t : Traced α} {x : α} (h : t.outcome = .ok x) : OnlyRunsOut (liftM t) :=
  fun _ start => .inl ⟨x, start, ReadsAt.lift h⟩

theorem times (hp : OnlyRunsOut p) (n : Nat) : OnlyRunsOut (times n p) := by
  induction n with
  | zero => exact pure []
  | succ n ih => exact hp.bind (fun x => ih.map (fun xs => x :: xs))

end OnlyRunsOut

theorem outcome_magic_of_wrong {resource : Resource} (h : WrongMagic resource buffer) :
    (magic resource ⟨buffer.toArray, 0⟩).outcome =
      .error (.invalidMagic resource (buffer.take 4)) := by
  have htake : ReadsAt (take 4) buffer 0 (window buffer 0 4) 4 :=
    (readsIf_take 4).reads (by simpa using h.long)
  have hother : window buffer 0 4 ≠ resource.magicBytes := h.other
  refine (htake.outcome_bind _).trans ?_
  rw [if_neg hother]
  rfl

theorem readsIf_magic {resource : Resource} (h : ¬ WrongMagic resource buffer) :
    ReadsIf (magic resource) buffer 0 (4 ≤ buffer.length) () 4 := by
  constructor
  · intro hlong
    have htake : ReadsAt (take 4) buffer 0 (window buffer 0 4) 4 :=
      (readsIf_take 4).reads (by simpa using hlong)
    have hsame : window buffer 0 4 = resource.magicBytes := take_of_not_wrongMagic h hlong
    refine htake.bind ?_
    rw [if_pos hsame]
    exact ReadsAt.pure ()
  · intro hshort
    exact (runsOut_take (by omega)).bind _

theorem outcome_runOn_of_error {bytes : List UInt8} {e : Fault}
    (h : (p ⟨bytes.toArray, 0⟩).outcome = .error e) : (runOn p bytes).outcome = .error e := by
  unfold runOn
  rw [map_eq_pure_bind, Traced.outcome_bind]
  show ((p ⟨bytes.toArray, 0⟩).outcome.bind _) = _
  rw [h]
  rfl

end Parser

end SceneScript
