import Mathlib.Algebra.Ring.Nat
import SceneScript.Bytes.Parser

/-
  Reading back what was written. `leBytes` writes a number in a fixed width.
  `Parser.Reads p bytes x` says that `p`, put where `bytes` stand in any
  buffer, returns `x` and stops right after them, and `Parser.ReadsAt` says
  what a parser does at one place of one buffer. Both have a closure algebra
  that follows the shape of parsers (`pure`, `bind`, `times`, …), so that the
  reader of a format is checked against its writer field by field. Only
  outcomes are looked at, never the events.
-/

namespace SceneScript

/-! ## Fixed-width numbers -/

/-- The `width` base-256 digits of a number, least significant first. -/
def leBytes : Nat → Nat → List UInt8
  | 0, _ => []
  | width + 1, n => UInt8.ofNat n :: leBytes width (n / 256)

@[simp] theorem length_leBytes (width n : Nat) : (leBytes width n).length = width := by
  induction width generalizing n with
  | zero => rfl
  | succ width ih => simp [leBytes, ih]

theorem leNat_leBytes (width n : Nat) : leNat (leBytes width n) = n % 256 ^ width := by
  induction width generalizing n with
  | zero => simp [leBytes, leNat, Nat.mod_one]
  | succ width ih =>
    have hdigit : (UInt8.ofNat n).toNat = n % 256 := by simp
    rw [leBytes, leNat, ih, hdigit, Nat.pow_succ, Nat.mul_comm (256 ^ width) 256, Nat.mod_mul]

theorem leNat_leBytes_of_lt {width n : Nat} (h : n < 256 ^ width) :
    leNat (leBytes width n) = n := by
  rw [leNat_leBytes, Nat.mod_eq_of_lt h]

theorem leNat_lt (bytes : List UInt8) : leNat bytes < 256 ^ bytes.length := by
  induction bytes with
  | nil => exact Nat.one_pos
  | cons b rest ih =>
    have hb := b.toNat_lt
    rw [leNat, List.length_cons, Nat.pow_succ]
    omega

/-- A number is written back as the digits it was read from. -/
theorem leBytes_leNat (bytes : List UInt8) : leBytes bytes.length (leNat bytes) = bytes := by
  induction bytes with
  | nil => rfl
  | cons b rest ih =>
    have hb := b.toNat_lt
    have hlow : UInt8.ofNat (b.toNat + 256 * leNat rest) = b := by
      apply UInt8.toNat_inj.mp
      rw [UInt8.toNat_ofNat']
      omega
    have hhigh : (b.toNat + 256 * leNat rest) / 256 = leNat rest := by omega
    rw [leNat, List.length_cons, leBytes, hlow, hhigh, ih]

theorem leWord16_leBytes (n : UInt16) : leWord16 (leBytes 2 n.toNat) = n := by
  rw [leWord16, leNat_leBytes_of_lt n.toNat_lt, UInt16.ofNat_toNat]

theorem leWord32_leBytes (n : UInt32) : leWord32 (leBytes 4 n.toNat) = n := by
  rw [leWord32, leNat_leBytes_of_lt n.toNat_lt, UInt32.ofNat_toNat]

theorem leWord64_leBytes (n : UInt64) : leWord64 (leBytes 8 n.toNat) = n := by
  rw [leWord64, leNat_leBytes_of_lt n.toNat_lt, UInt64.ofNat_toNat]

theorem leBytes_leWord16 {bytes : List UInt8} (h : bytes.length = 2) :
    leBytes 2 (leWord16 bytes).toNat = bytes := by
  have hlt := leNat_lt bytes
  have hbytes := leBytes_leNat bytes
  rw [h] at hlt hbytes
  rw [leWord16, UInt16.toNat_ofNat_of_lt' hlt, hbytes]

theorem leBytes_leWord32 {bytes : List UInt8} (h : bytes.length = 4) :
    leBytes 4 (leWord32 bytes).toNat = bytes := by
  have hlt := leNat_lt bytes
  have hbytes := leBytes_leNat bytes
  rw [h] at hlt hbytes
  rw [leWord32, UInt32.toNat_ofNat_of_lt' hlt, hbytes]

theorem leBytes_leWord64 {bytes : List UInt8} (h : bytes.length = 8) :
    leBytes 8 (leWord64 bytes).toNat = bytes := by
  have hlt := leNat_lt bytes
  have hbytes := leBytes_leNat bytes
  rw [h] at hlt hbytes
  rw [leWord64, UInt64.toNat_ofNat_of_lt' hlt, hbytes]

/-! ## Places in a buffer -/

/-- `bytes` stand in `buffer` from position `pos` on. -/
def StandsAt (bytes buffer : List UInt8) (pos : Nat) : Prop :=
  ∃ before after, buffer = before ++ bytes ++ after ∧ before.length = pos

theorem standsAt_self (bytes : List UInt8) : StandsAt bytes bytes 0 :=
  ⟨[], [], by simp, rfl⟩

theorem StandsAt.le {bytes buffer : List UInt8} {pos : Nat} (h : StandsAt bytes buffer pos) :
    pos + bytes.length ≤ buffer.length := by
  obtain ⟨before, after, rfl, rfl⟩ := h
  simp

theorem StandsAt.take_drop {bytes buffer : List UInt8} {pos : Nat}
    (h : StandsAt bytes buffer pos) : (buffer.drop pos).take bytes.length = bytes := by
  obtain ⟨before, after, rfl, rfl⟩ := h
  simp

theorem standsAt_of_take_drop {bytes buffer : List UInt8} {pos : Nat}
    (hle : pos + bytes.length ≤ buffer.length)
    (h : (buffer.drop pos).take bytes.length = bytes) : StandsAt bytes buffer pos := by
  have hrest := List.take_append_drop bytes.length (buffer.drop pos)
  rw [h, List.drop_drop] at hrest
  refine ⟨buffer.take pos, buffer.drop (pos + bytes.length), ?_, ?_⟩
  · rw [List.append_assoc, hrest, List.take_append_drop]
  · rw [List.length_take]
    omega

theorem StandsAt.left {a b buffer : List UInt8} {pos : Nat}
    (h : StandsAt (a ++ b) buffer pos) : StandsAt a buffer pos := by
  obtain ⟨before, after, rfl, rfl⟩ := h
  exact ⟨before, b ++ after, by simp, rfl⟩

theorem StandsAt.right {a b buffer : List UInt8} {pos : Nat}
    (h : StandsAt (a ++ b) buffer pos) : StandsAt b buffer (pos + a.length) := by
  obtain ⟨before, after, rfl, rfl⟩ := h
  exact ⟨before ++ a, after, by simp, by simp⟩

/-- A text without zero bytes is found again before the first one. -/
theorem takeWhile_zero {name : List UInt8} (h : 0 ∉ name) (after : List UInt8) :
    (name ++ 0 :: after).takeWhile (· ≠ 0) = name := by
  rw [List.takeWhile_append_of_pos]
  · simp
  · intro b hb
    exact decide_eq_true (fun hzero => h (hzero ▸ hb))

theorem Traced.outcome_bind_of_ok {α β : Type} {x : Traced α} {a : α}
    (h : x.outcome = .ok a) (f : α → Traced β) : (x >>= f).outcome = (f a).outcome := by
  rw [Traced.bind_of_ok h f]

namespace Parser

variable {α β : Type}

/-- In `buffer`, `p` goes from `start` to `stop` and returns `x`. -/
def ReadsAt (p : Parser α) (buffer : List UInt8) (start : Nat) (x : α) (stop : Nat) : Prop :=
  (p ⟨buffer.toArray, start⟩).outcome = .ok (x, ⟨buffer.toArray, stop⟩)

/-- Wherever `bytes` stand, `p` returns `x` and stops right after them. -/
def Reads (p : Parser α) (bytes : List UInt8) (x : α) : Prop :=
  ∀ buffer pos, StandsAt bytes buffer pos → ReadsAt p buffer pos x (pos + bytes.length)

/-! ## At one place -/

theorem ReadsAt.pure {buffer : List UInt8} {start : Nat} (x : α) :
    ReadsAt (Pure.pure x) buffer start x start := rfl

/-- After a step that succeeds, the outcome is that of what follows. -/
theorem ReadsAt.outcome_bind {p : Parser α} {buffer : List UInt8} {start mid : Nat} {x : α}
    (hp : ReadsAt p buffer start x mid) (f : α → Parser β) :
    ((p >>= f) ⟨buffer.toArray, start⟩).outcome = (f x ⟨buffer.toArray, mid⟩).outcome :=
  Traced.outcome_bind_of_ok hp (fun result => f result.1 result.2)

theorem ReadsAt.bind {p : Parser α} {f : α → Parser β} {buffer : List UInt8}
    {start mid stop : Nat} {x : α} {y : β} (hp : ReadsAt p buffer start x mid)
    (hf : ReadsAt (f x) buffer mid y stop) : ReadsAt (p >>= f) buffer start y stop :=
  (hp.outcome_bind f).trans hf

/-- All that is left from a position on. -/
theorem peek_remaining (buffer : List UInt8) (pos : Nat) :
    (⟨buffer.toArray, pos⟩ : Reader).peek (Reader.remaining ⟨buffer.toArray, pos⟩) =
      buffer.drop pos := by
  rw [Reader.peek_eq]
  exact List.take_of_length_le (by simp [Reader.remaining])

theorem outcome_lift (t : Traced α) (r : Reader) :
    ((liftM t : Parser α) r).outcome = t.outcome.map (fun x => (x, r)) := by
  show Traced.outcome (t >>= fun x => Pure.pure (x, r)) = _
  rw [Traced.outcome_bind]
  cases t.outcome <;> rfl

/-- A step that only reports stays where it is. -/
theorem ReadsAt.lift {t : Traced α} {x : α} {buffer : List UInt8} {start : Nat}
    (h : t.outcome = .ok x) : ReadsAt (liftM t) buffer start x start := by
  unfold ReadsAt
  rw [outcome_lift, h]
  rfl

theorem ReadsAt.seek {buffer : List UInt8} {start target : Nat} (h : target ≤ buffer.length) :
    ReadsAt (seek target) buffer start () target := by
  unfold ReadsAt Parser.seek
  rw [if_pos (by simpa using h)]
  rfl

/-- Reading from the start of a byte string. -/
theorem ReadsAt.runOn {p : Parser α} {bytes : List UInt8} {stop : Nat} {x : α}
    (h : ReadsAt p bytes 0 x stop) : (runOn p bytes).outcome = .ok x := by
  unfold Parser.runOn
  rw [map_eq_pure_bind]
  exact Traced.outcome_bind_of_ok h _

theorem ReadsAt.aside {p : Parser α} {buffer : List UInt8} {start stop : Nat} {x : α}
    (h : ReadsAt p buffer start x stop) : ReadsAt (aside p) buffer start x start := by
  unfold ReadsAt Parser.aside
  rw [map_eq_pure_bind, Traced.outcome_bind, h]
  rfl

/-! ## Wherever the bytes stand -/

theorem Reads.pure (x : α) : Reads (Pure.pure x) [] x :=
  fun _ _ _ => ReadsAt.pure x

theorem Reads.runOn {p : Parser α} {bytes : List UInt8} {x : α} (h : Reads p bytes x) :
    (runOn p bytes).outcome = .ok x :=
  (h bytes 0 (standsAt_self bytes)).runOn

theorem Reads.bind {p : Parser α} {f : α → Parser β} {a b : List UInt8} {x : α} {y : β}
    (hp : Reads p a x) (hf : Reads (f x) b y) : Reads (p >>= f) (a ++ b) y := by
  intro buffer pos h
  have hstop := hf buffer (pos + a.length) h.right
  rw [Nat.add_assoc, ← List.length_append] at hstop
  exact (hp buffer pos h.left).bind hstop

theorem Reads.map {p : Parser α} {bytes : List UInt8} {x : α} (hp : Reads p bytes x)
    (f : α → β) : Reads (do return f (← p)) bytes (f x) := by
  intro buffer pos h
  exact (hp buffer pos h).bind (ReadsAt.pure (f x))

/-- A step that only reports reads nothing. -/
theorem Reads.lift {t : Traced α} {x : α} (h : t.outcome = .ok x) : Reads (liftM t) [] x :=
  fun _ _ _ => ReadsAt.lift h

/-- A report after the last thing that is read. -/
theorem Reads.reported {p : Parser α} {bytes : List UInt8} {x : α} (hp : Reads p bytes x)
    (event : α → Event) (f : α → β) :
    Reads (do let y ← p; Traced.report (event y); return f y) bytes (f x) := by
  have h : Reads (do let y ← p; Traced.report (event y); return f y) (bytes ++ []) (f x) :=
    hp.bind ((Reads.lift rfl).bind (Reads.pure (f x)))
  rwa [List.append_nil] at h

theorem reads_take (bytes : List UInt8) : Reads (take bytes.length) bytes bytes := by
  intro buffer pos h
  unfold ReadsAt Parser.take
  rw [if_pos (by simpa using h.le)]
  show Except.ok (Reader.peek _ _, _) = _
  rw [Reader.peek_eq]
  show Except.ok ((buffer.drop pos).take bytes.length, _) = _
  rw [h.take_drop]

theorem reads_take_of_length {bytes : List UInt8} {n : Nat} (h : bytes.length = n) :
    Reads (take n) bytes bytes := by
  subst h
  exact reads_take bytes

theorem reads_skip {bytes : List UInt8} {n : Nat} (h : bytes.length = n) :
    Reads (skip n) bytes () :=
  (reads_take_of_length h).map (fun _ => ())

theorem reads_byte (b : UInt8) : Reads byte [b] b := by
  have h : Reads byte [b] (UInt8.ofNat (leNat [b])) :=
    (reads_take [b]).map (fun bytes => UInt8.ofNat (leNat bytes))
  have hvalue : UInt8.ofNat (leNat [b]) = b := by simp [leNat]
  rwa [hvalue] at h

theorem reads_word16 (n : UInt16) : Reads word16 (leBytes 2 n.toNat) n := by
  have h := (reads_take_of_length (length_leBytes 2 n.toNat)).map leWord16
  rwa [leWord16_leBytes] at h

theorem reads_word32 (n : UInt32) : Reads word32 (leBytes 4 n.toNat) n := by
  have h := (reads_take_of_length (length_leBytes 4 n.toNat)).map leWord32
  rwa [leWord32_leBytes] at h

/-- A number that fits is read as the word it is. -/
theorem reads_number {n : Nat} (h : n < 2 ^ 32) :
    Reads word32 (leBytes 4 n) (UInt32.ofNat n) := by
  have hread := reads_word32 (UInt32.ofNat n)
  rwa [UInt32.toNat_ofNat_of_lt' h] at hread

theorem reads_word64 (n : UInt64) : Reads word64 (leBytes 8 n.toNat) n := by
  have h := (reads_take_of_length (length_leBytes 8 n.toNat)).map leWord64
  rwa [leWord64_leBytes] at h

theorem reads_int16 (n : Int16) : Reads int16 (leBytes 2 n.toUInt16.toNat) n := by
  have h := (reads_word16 n.toUInt16).map UInt16.toInt16
  rwa [Int16.toInt16_toUInt16] at h

theorem reads_int32 (n : Int32) : Reads int32 (leBytes 4 n.toUInt32.toNat) n := by
  have h := (reads_word32 n.toUInt32).map UInt32.toInt32
  rwa [Int32.toInt32_toUInt32] at h

theorem reads_int64 (n : Int64) : Reads int64 (leBytes 8 n.toUInt64.toNat) n := by
  have h := (reads_word64 n.toUInt64).map UInt64.toInt64
  rwa [Int64.toInt64_toUInt64] at h

theorem reads_text (d : TextDecoder) {bytes : List UInt8} {n : Nat} (h : bytes.length = n) :
    Reads (text d n) bytes (d.decode bytes).text := by
  have hread : Reads (text d n) (bytes ++ []) (d.decode bytes).text :=
    (reads_take_of_length h).bind (Reads.lift (TextDecoder.outcome_read d bytes))
  rwa [List.append_nil] at hread

theorem reads_magic (resource : Resource) : Reads (magic resource) resource.magicBytes () := by
  have hlen : resource.magicBytes.length = 4 := by cases resource <;> rfl
  have hcheck : Reads (if resource.magicBytes = resource.magicBytes then Pure.pure ()
      else fail (.invalidMagic resource resource.magicBytes)) [] () := by
    rw [if_pos rfl]
    exact Reads.pure ()
  have hread : Reads (magic resource) (resource.magicBytes ++ []) () :=
    (reads_take_of_length hlen).bind hcheck
  rwa [List.append_nil] at hread

/-- Before the first zero byte, text is read as if its length were known. -/
theorem terminated_eq (d : TextDecoder) {bytes buffer : List UInt8} {pos : Nat} (h : 0 ∉ bytes)
    (hat : StandsAt (bytes ++ [0]) buffer pos) :
    terminated d ⟨buffer.toArray, pos⟩ =
      (do let t ← text d bytes.length; skip 1; return t : Parser String)
        ⟨buffer.toArray, pos⟩ := by
  -- The text is looked for in all that is left, and `bytes` hold no zero of their own.
  have hfound : (((⟨buffer.toArray, pos⟩ : Reader).peek
      (Reader.remaining ⟨buffer.toArray, pos⟩)).takeWhile (· ≠ 0)) = bytes := by
    obtain ⟨before, after, rfl, rfl⟩ := hat
    have hdrop : (before ++ (bytes ++ [0]) ++ after).drop before.length =
        bytes ++ 0 :: after := by simp
    rw [peek_remaining, hdrop, takeWhile_zero h]
  have hle := hat.le
  -- There is a zero to consume: the text does not end with the buffer.
  have hlt : bytes.length < buffer.length - pos := by
    rw [List.length_append] at hle
    simp at hle
    omega
  show (if _ then _ else _ : Parser String) ⟨buffer.toArray, pos⟩ = _
  rw [hfound, if_pos (by simpa [Reader.remaining] using hlt)]

/-- Text that a zero byte ends. -/
theorem reads_terminated (d : TextDecoder) {bytes : List UInt8} (h : 0 ∉ bytes) :
    Reads (terminated d) (bytes ++ [0]) (d.decode bytes).text := by
  intro buffer pos hat
  have htail : Reads (do let t ← text d bytes.length; skip 1; return t) (bytes ++ [0])
      (d.decode bytes).text :=
    (reads_text d rfl).bind ((reads_skip rfl).map (fun _ => (d.decode bytes).text))
  unfold ReadsAt
  rw [terminated_eq d h hat]
  exact htail buffer pos hat

theorem reads_times {ι : Type} {p : Parser α} {write : ι → List UInt8} {value : ι → α}
    {items : List ι} (h : ∀ i ∈ items, Reads p (write i) (value i)) :
    Reads (times items.length p) (items.flatMap write) (items.map value) := by
  induction items with
  | nil => exact Reads.pure []
  | cons i rest ih =>
    have hfirst : Reads p (write i) (value i) := h i List.mem_cons_self
    have hrest := ih (fun j hj => h j (List.mem_cons_of_mem i hj))
    exact hfirst.bind (hrest.map (fun values => value i :: values))

end Parser

end SceneScript
