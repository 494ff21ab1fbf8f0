import SceneScript.Proofs.Abreast
import SceneScript.Proofs.Bytes.Reading

/-
  Reading two buffers abreast. `SameAt S b b'` says that two buffers have the
  same bytes at the places in `S`, as far as the first one reaches. Each
  reader goes over the same places in both, whatever it finds there, and what
  it returns is told by the bytes it went over (`window`). Where `b` is the
  shorter one, reading it may also fail for want of bytes.
-/

namespace SceneScript

/-- The `n` bytes from `pos` on, fewer if there are not so many. -/
def window (buffer : List UInt8) (pos n : Nat) : List UInt8 := (buffer.drop pos).take n

theorem length_window_le (buffer : List UInt8) (pos n : Nat) :
    (window buffer pos n).length ≤ n := by
  rw [window, List.length_take]
  exact Nat.min_le_left _ _

theorem toNat_leWord32_window (buffer : List UInt8) (pos : Nat) :
    (leWord32 (window buffer pos 4)).toNat = leNat (window buffer pos 4) := by
  have hlt := leNat_lt (window buffer pos 4)
  have hle : 256 ^ (window buffer pos 4).length ≤ 256 ^ 4 :=
    Nat.pow_le_pow_right (by omega) (length_window_le buffer pos 4)
  exact UInt32.toNat_ofNat_of_lt' (Nat.lt_of_lt_of_le hlt hle)

/-- One byte of a window. -/
theorem getD_window_eq (b : List UInt8) (pos : Nat) {i n : Nat} (hi : i < n) :
    (window b pos n).getD i 0 = b.getD (pos + i) 0 := by
  rw [List.getD_eq_getElem?_getD, List.getD_eq_getElem?_getD, window,
    List.getElem?_take_of_lt hi, List.getElem?_drop]

theorem window_one {buffer : List UInt8} {pos : Nat} (h : pos < buffer.length) :
    window buffer pos 1 = [buffer.getD pos 0] := by
  rw [window, List.drop_eq_getElem_cons h, List.take_succ_cons, List.take_zero,
    List.getD_eq_getElem?_getD, List.getElem?_eq_getElem h, Option.getD_some]

/-- The same bytes at the places in `S`, as far as `b` reaches. -/
structure SameAt (S : Nat → Prop) (b b' : List UInt8) : Prop where
  le : b.length ≤ b'.length
  bytes : ∀ i, i < b.length → S i → b[i]? = b'[i]?

variable {S : Nat → Prop} {b b' : List UInt8}

theorem SameAt.refl (S : Nat → Prop) (b : List UInt8) : SameAt S b b :=
  ⟨Nat.le_refl _, fun _ _ _ => rfl⟩

theorem SameAt.window (h : SameAt S b b') {pos n : Nat}
    (hS : ∀ i, pos ≤ i → i < pos + n → S i) (hle : pos + n ≤ b.length) :
    window b pos n = window b' pos n := by
  have hle' := h.le
  apply List.ext_getElem?
  intro i
  by_cases hi : i < n
  · rw [SceneScript.window, SceneScript.window, List.getElem?_take_of_lt hi,
      List.getElem?_take_of_lt hi, List.getElem?_drop, List.getElem?_drop]
    exact h.bytes (pos + i) (by omega) (hS _ (by omega) (by omega))
  · rw [List.getElem?_eq_none (by simp [SceneScript.window]; omega),
      List.getElem?_eq_none (by simp [SceneScript.window]; omega)]

/-- What is appended changes nothing before it. -/
theorem sameAt_append (b t : List UInt8) : SameAt (fun _ => True) b (b ++ t) := by
  refine ⟨by simp, fun i hi _ => ?_⟩
  rw [List.getElem?_append_left hi]

/-- A buffer that agrees everywhere goes on as the other one does. -/
theorem SameAt.prefix (h : SameAt (fun _ => True) b b') : b <+: b' := by
  have htake : b = b'.take b.length := by
    apply List.ext_getElem?
    intro i
    by_cases hi : i < b.length
    · rw [List.getElem?_take_of_lt hi]
      exact h.bytes i hi trivial
    · rw [List.getElem?_eq_none (by omega), List.getElem?_eq_none (by simp; omega)]
  rw [htake]
  exact List.take_prefix _ _

namespace Parser

variable {α β : Type}

/-- Readers of two buffers, both at `pos`. -/
def At (b b' : List UInt8) (pos : Nat) (r r' : Reader) : Prop :=
  r = ⟨b.toArray, pos⟩ ∧ r' = ⟨b'.toArray, pos⟩

/-- Two parsers abreast, one in each buffer. -/
abbrev InBoth (b b' : List UInt8) (pos : Nat) (p : Parser α) (q : Parser β)
    (R : α → β → Nat → Prop) : Prop :=
  Abreast (b.length < b'.length) (At b b') pos p q R

theorem agree_runOn {p : Parser α} {q : Parser β} {R : α → β → Nat → Prop}
    (h : InBoth b b' 0 p q R) :
    Agree (b.length < b'.length) (fun x y => ∃ stop, R x y stop) (runOn p b).outcome
      (runOn q b').outcome := by
  unfold runOn
  rw [map_eq_pure_bind, map_eq_pure_bind]
  exact (h _ _ ⟨rfl, rfl⟩).traced (fun _ _ _ ⟨stop, _, hr⟩ => .ok ⟨stop, hr⟩)

/-! ## Failing, moving and taking -/

theorem inBoth_fail (f : Fault) (pos : Nat) {R : α → β → Nat → Prop} :
    InBoth b b' pos (fail f) (fail f) R :=
  fun _ _ _ => .fault f

/-- Asking for bytes that the first buffer does not have fails in both, or the
first one is shorter. -/
theorem agree_outOfBounds {R : α → β → Prop} (hle : b.length ≤ b'.length) (offset len : Nat)
    {o : Except Fault β}
    (ho : b.length = b'.length → o = .error (.outOfBounds offset len b'.length)) :
    Agree (b.length < b'.length) R (.error (.outOfBounds offset len b.length)) o := by
  rcases Nat.lt_or_eq_of_le hle with hlt | heq
  · exact .short hlt rfl
  · rw [ho heq, heq]
    exact .fault _

theorem inBoth_seek (hle : b.length ≤ b'.length) (pos target : Nat) :
    InBoth b b' pos (seek target) (seek target)
      (fun _ _ stop => target ≤ b.length ∧ stop = target) := by
  rintro _ _ ⟨rfl, rfl⟩
  unfold seek
  by_cases h : target ≤ b.length
  · rw [if_pos (by simpa using h), if_pos (by simpa using Nat.le_trans h hle)]
    exact .ok ⟨target, ⟨rfl, rfl⟩, h, rfl⟩
  · rw [if_neg (by simpa using h)]
    refine agree_outOfBounds hle target 0 (fun heq => ?_)
    rw [if_neg (by simpa [← heq] using h)]
    rfl

theorem inBoth_take (hle : b.length ≤ b'.length) (pos n : Nat) :
    InBoth b b' pos (take n) (take n) (fun x y stop =>
      pos + n ≤ b.length ∧ x = window b pos n ∧ y = window b' pos n ∧ stop = pos + n) := by
  rintro _ _ ⟨rfl, rfl⟩
  unfold take
  by_cases h : pos + n ≤ b.length
  · rw [if_pos (by simpa using h), if_pos (by simpa using Nat.le_trans h hle)]
    exact .ok ⟨pos + n, ⟨rfl, rfl⟩, h, Reader.peek_eq _ _, Reader.peek_eq _ _, rfl⟩
  · rw [if_neg (by simpa using h)]
    refine agree_outOfBounds hle pos n (fun heq => ?_)
    rw [if_neg (by simpa [← heq] using h)]
    rfl

theorem inBoth_aside {pos : Nat} {p : Parser α} {q : Parser β} {R : α → β → Nat → Prop}
    (h : InBoth b b' pos p q R) :
    InBoth b b' pos (aside p) (aside q) (fun x y stop => (∃ m, R x y m) ∧ stop = pos) := by
  rintro _ _ ⟨rfl, rfl⟩
  unfold aside
  rw [map_eq_pure_bind, map_eq_pure_bind]
  exact (h _ _ ⟨rfl, rfl⟩).traced
    (fun _ _ _ ⟨m, _, hr⟩ => .ok ⟨pos, ⟨rfl, rfl⟩, ⟨m, hr⟩, rfl⟩)

/-! ## Words, text and names -/

theorem inBoth_skip (hle : b.length ≤ b'.length) (pos n : Nat) :
    InBoth b b' pos (skip n) (skip n) (fun _ _ stop => pos + n ≤ b.length ∧ stop = pos + n) :=
  (inBoth_take hle pos n).map (fun _ _ _ h => ⟨h.1, h.2.2.2⟩)

theorem inBoth_byte (hle : b.length ≤ b'.length) (pos : Nat) :
    InBoth b b' pos byte byte (fun x y stop => pos + 1 ≤ b.length ∧
      x = UInt8.ofNat (leNat (window b pos 1)) ∧ y = UInt8.ofNat (leNat (window b' pos 1)) ∧
      stop = pos + 1) :=
  (inBoth_take hle pos 1).map (fun _ _ _ ⟨h, hx, hy, hstop⟩ => ⟨h, by rw [hx], by rw [hy], hstop⟩)

theorem inBoth_word16 (hle : b.length ≤ b'.length) (pos : Nat) :
    InBoth b b' pos word16 word16 (fun x y stop => pos + 2 ≤ b.length ∧
      x = leWord16 (window b pos 2) ∧ y = leWord16 (window b' pos 2) ∧ stop = pos + 2) :=
  (inBoth_take hle pos 2).map (fun _ _ _ ⟨h, hx, hy, hstop⟩ => ⟨h, by rw [hx], by rw [hy], hstop⟩)

theorem inBoth_word32 (hle : b.length ≤ b'.length) (pos : Nat) :
    InBoth b b' pos word32 word32 (fun x y stop => pos + 4 ≤ b.length ∧
      x = leWord32 (window b pos 4) ∧ y = leWord32 (window b' pos 4) ∧ stop = pos + 4) :=
  (inBoth_take hle pos 4).map (fun _ _ _ ⟨h, hx, hy, hstop⟩ => ⟨h, by rw [hx], by rw [hy], hstop⟩)

theorem inBoth_magic (hsame : SameAt S b b') (resource : Resource) (pos : Nat)
    (hS : ∀ i, pos ≤ i → i < pos + 4 → S i) :
    InBoth b b' pos (magic resource) (magic resource) (fun _ _ stop => stop = pos + 4) := by
  refine (inBoth_take hsame.le pos 4).bind ?_
  rintro x y stop ⟨h, rfl, rfl, rfl⟩
  rw [← hsame.window hS h]
  exact Abreast.ite Iff.rfl (fun _ => Abreast.pure rfl) (fun _ => inBoth_fail _ _)

theorem inBoth_text (hsame : SameAt S b b') (d : TextDecoder) (pos n : Nat)
    (hS : ∀ i, pos ≤ i → i < pos + n → S i) :
    InBoth b b' pos (text d n) (text d n) (fun x y stop => x = y ∧ stop = pos + n) := by
  refine (inBoth_take hsame.le pos n).bind ?_
  rintro x y stop ⟨h, rfl, rfl, rfl⟩
  rw [← hsame.window hS h]
  exact Abreast.lift (.of_eq rfl)

/-- A text that ends in the first buffer ends at the same place in one that
goes on. -/
theorem inBoth_terminated (hsame : SameAt (fun _ => True) b b') (d : TextDecoder) (pos : Nat) :
    InBoth b b' pos (terminated d) (terminated d) (fun x y _ => x = y) := by
  obtain ⟨t, rfl⟩ := hsame.prefix
  have hget : InBoth b (b ++ t) pos get get
      (fun r r' stop => r = ⟨b.toArray, pos⟩ ∧ r' = ⟨(b ++ t).toArray, pos⟩ ∧ stop = pos) :=
    fun r r' hat => .ok ⟨pos, hat, hat.1, hat.2, rfl⟩
  refine hget.bind ?_
  rintro r r' stop ⟨rfl, rfl, rfl⟩
  rw [peek_remaining, peek_remaining]
  by_cases hfound : ((b.drop stop).takeWhile (· ≠ 0)).length < (b.drop stop).length
  · -- The zero byte is in the first buffer, so the text ends there in both.
    have hpos : stop ≤ b.length := by
      rw [List.length_drop] at hfound
      omega
    have hlen : (((b ++ t).drop stop).takeWhile (· ≠ 0)).length =
        ((b.drop stop).takeWhile (· ≠ 0)).length := by
      rw [List.drop_append_of_le_length hpos, List.takeWhile_append, if_neg (by omega)]
    have hmore : (b.drop stop).length ≤ Reader.remaining ⟨(b ++ t).toArray, stop⟩ := by
      simp [Reader.remaining]
      omega
    rw [hlen, if_pos (by simpa [Reader.remaining] using hfound),
      if_pos (Nat.lt_of_lt_of_le hfound hmore)]
    refine (inBoth_text hsame d stop _ (fun _ _ _ => trivial)).bind ?_
    rintro x y mid ⟨rfl, rfl⟩
    exact (inBoth_skip hsame.le _ 1).bind (fun _ _ _ _ => Abreast.pure rfl)
  · rw [if_neg (by simpa [Reader.remaining] using hfound)]
    rintro _ _ ⟨rfl, rfl⟩
    rcases Nat.lt_or_eq_of_le hsame.le with hlt | heq
    · exact .short hlt rfl
    · have ht : t = [] := by
        rw [List.length_append] at heq
        exact List.eq_nil_of_length_eq_zero (by omega)
      subst ht
      rw [List.append_nil, if_neg (by simpa [Reader.remaining] using hfound)]
      exact .fault _

/-! ## Repetition -/

/-- Item number `j` starts at a place of which `P j` holds. -/
theorem inBoth_times {Q : Nat → α → β → Prop} {P : Nat → Nat → Prop} {p : Parser α}
    {q : Parser β} {n : Nat}
    (hstep : ∀ j pos, j < n → P j pos →
      InBoth b b' pos p q (fun x y stop => Q j x y ∧ P (j + 1) stop))
    {k rest pos : Nat} (hk : k + rest = n) (hat : P k pos) :
    InBoth b b' pos (times rest p) (times rest q)
      (fun xs ys stop => Each Q k xs ys ∧ P n stop) := by
  induction rest generalizing k pos with
  | zero =>
    rw [Nat.add_zero] at hk
    exact Abreast.pure ⟨.nil, hk ▸ hat⟩
  | succ rest ih =>
    refine (hstep k pos (by omega) hat).bind ?_
    rintro x y mid ⟨hq, hmid⟩
    refine (ih (by omega) hmid).map ?_
    rintro xs ys stop ⟨heach, hstop⟩
    exact ⟨.cons hq heach, hstop⟩

end Parser

end SceneScript
