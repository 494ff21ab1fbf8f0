import Mathlib.Data.List.TakeWhile
import SceneScript.Bytes.Cursor
import SceneScript.Proofs.Bytes.RunningOut

/-
  Cursors and readers. A parser that fails forgets what it has read; an
  operation on a cursor does not. `InPlace.Tracks` says of one cursor that an
  operation on it and a parser do the same all the same: both succeed under
  the same condition, with the same result and at the same place, and where
  they fail the cursor has not moved. Moved by machine words, a cursor goes
  where plain numbers say.
-/

namespace SceneScript

namespace Parser

variable {α : Type} {f g : List UInt8 → α} {n : Nat}

theorem take_eq (n : Nat) (buffer : List UInt8) (pos : Nat) :
    take n ⟨buffer.toArray, pos⟩ =
      if pos + n ≤ buffer.length then
        pure (window buffer pos n, ⟨buffer.toArray, pos + n⟩)
      else Traced.fail (.outOfBounds pos n buffer.length) := by
  unfold take
  simp only [Reader.peek_eq, List.size_toArray, Reader.outOfBounds]
  rfl

/-- What is made of `n` bytes matters for `n` bytes only. -/
theorem map_take_congr (h : ∀ bytes, bytes.length = n → f bytes = g bytes)
    (buffer : List UInt8) (pos : Nat) :
    (do return f (← take n) : Parser α) ⟨buffer.toArray, pos⟩ =
      (do return g (← take n) : Parser α) ⟨buffer.toArray, pos⟩ := by
  show (take n _ >>= fun s => pure (f s.1, s.2)) = (take n _ >>= fun s => pure (g s.1, s.2))
  rw [take_eq]
  split
  · next hle =>
    have hlen : (window buffer pos n).length = n := by
      rw [window, List.length_take, List.length_drop]
      omega
    rw [pure_bind, pure_bind, h _ hlen]
  · rfl

/-- Without a zero byte ahead, text up to one is all that is left and more. -/
theorem terminated_of_no_zero (d : TextDecoder) {buffer : List UInt8} {pos : Nat}
    (h : 0 ∉ buffer.drop pos) :
    terminated d ⟨buffer.toArray, pos⟩ =
      Traced.fail (.outOfBounds pos ((buffer.drop pos).length + 1) buffer.length) := by
  have hall : (buffer.drop pos).takeWhile (· ≠ 0) = buffer.drop pos := by
    rw [List.takeWhile_eq_self_iff]
    intro b hb
    exact decide_eq_true (fun hzero => h (hzero ▸ hb))
  show (if _ then _ else _ : Parser String) ⟨buffer.toArray, pos⟩ = _
  rw [peek_remaining, hall, if_neg (by simp [Reader.remaining])]
  simp [fail, Reader.outOfBounds, Reader.remaining]

end Parser

namespace InPlace

variable {α β : Type}

theorem bind_of_ok {m : InPlace α} {c c' : Cursor} {t : Traced α} {x : α}
    (h : m c = (t, c')) (ht : t.outcome = .ok x) (f : α → InPlace β) :
    (m >>= f) c =
      (⟨t.events ++ (f x c').1.events, (f x c').1.outcome⟩, (f x c').2) := by
  show andThen m f c = _
  simp only [andThen, h, ht]

theorem bind_of_error {m : InPlace α} {c c' : Cursor} {t : Traced α} {e : Fault}
    (h : m c = (t, c')) (ht : t.outcome = .error e) (f : α → InPlace β) :
    (m >>= f) c = (⟨t.events, .error e⟩, c') := by
  show andThen m f c = _
  simp only [andThen, h, ht]

theorem bind_pure_eq (m : InPlace α) (f : α → β) (c : Cursor) :
    (do return f (← m) : InPlace β) c = (f <$> (m c).1, (m c).2) := by
  obtain ⟨t, c', hm⟩ : ∃ t c', m c = (t, c') := ⟨_, _, rfl⟩
  rw [hm]
  cases ht : t.outcome with
  | ok x =>
    rw [bind_of_ok hm ht, map_eq_pure_bind, Traced.bind_of_ok ht]
    rfl
  | error e => rw [bind_of_error hm ht, map_eq_pure_bind, Traced.bind_of_error ht]

/-- Looking at the cursor does nothing to it. -/
theorem cursor_bind (f : Cursor → InPlace β) (c : Cursor) : (cursor >>= f) c = f c c := by
  have hcursor : cursor c = (pure c, c) := rfl
  exact bind_of_ok hcursor rfl f

/-- Started at the same place, the operation `m` and the parser `p` succeed if
`fits` holds, with `result`, and come to `stop`; if not, they ask in vain for
bytes, and the cursor stays. -/
structure Tracks (m : InPlace α) (p : Parser α) (c : Cursor) (fits : Prop)
    (result : Traced α) (stop : Nat) : Prop where
  parses : fits →
    p c.reader = (fun x => (x, ⟨c.buffer.bytes.toArray, stop⟩)) <$> result
  moves : fits → ∃ pos : UInt64, pos.toNat = stop ∧ m c = (result, { c with pos })
  stays : ¬ fits → ∃ offset len,
    p c.reader = Traced.fail (.outOfBounds offset len c.buffer.bytes.length) ∧
      m c = (Traced.fail (.outOfBounds offset len c.buffer.bytes.length), c)

namespace Tracks

variable {m : InPlace α} {p : Parser α} {c : Cursor} {fits : Prop} {result : Traced α}
  {x : α} {stop : Nat}

/-- A step after the last one, which neither moves nor fails. -/
theorem still (h : Tracks m p c fits (pure x) stop) (t : α → Traced β) :
    Tracks (m >>= fun x => InPlace.still (t x)) (p >>= fun x => liftM (t x)) c fits (t x)
      stop := by
  constructor
  · intro hfits
    show (p c.reader >>= fun s => (liftM (t s.1) : Parser β) s.2) = _
    rw [h.parses hfits, map_pure, pure_bind]
    show (t x >>= fun y => pure (y, _)) = _
    rw [map_eq_pure_bind]
  · intro hfits
    obtain ⟨pos, hpos, hm⟩ := h.moves hfits
    refine ⟨pos, hpos, ?_⟩
    rw [bind_of_ok hm rfl]
    rfl
  · intro hnot
    obtain ⟨offset, len, hp, hm⟩ := h.stays hnot
    refine ⟨offset, len, ?_, bind_of_error hm rfl _⟩
    show (p c.reader >>= fun s => (liftM (t s.1) : Parser β) s.2) = _
    rw [hp]
    rfl

theorem map (h : Tracks m p c fits result stop) (f : α → β) :
    Tracks (do return f (← m)) (do return f (← p)) c fits (f <$> result) stop := by
  constructor
  · intro hfits
    show (p c.reader >>= fun s => pure (f s.1, s.2)) = _
    rw [h.parses hfits, bind_pure_comp, Functor.map_map, Functor.map_map]
  · intro hfits
    obtain ⟨pos, hpos, hm⟩ := h.moves hfits
    exact ⟨pos, hpos, by rw [bind_pure_eq, hm]⟩
  · intro hnot
    obtain ⟨offset, len, hp, hm⟩ := h.stays hnot
    refine ⟨offset, len, ?_, by rw [bind_pure_eq, hm]; rfl⟩
    show (p c.reader >>= fun s => pure (f s.1, s.2)) = _
    rw [hp]
    rfl

/-- The parser ends as the operation does, and stands where the cursor does then. -/
theorem parser_eq (h : Tracks m p c fits result stop) :
    p c.reader =
      ⟨(m c).1.events, (m c).1.outcome.map (fun x => (x, (m c).2.reader))⟩ := by
  by_cases hfits : fits
  · obtain ⟨pos, rfl, hm⟩ := h.moves hfits
    rw [h.parses hfits, hm, map_eq_pure_bind]
    cases hresult : result.outcome with
    | ok x =>
      rw [Traced.bind_of_ok hresult]
      exact Traced.ext (List.append_nil _) rfl
    | error e => rw [Traced.bind_of_error hresult]; rfl
  · obtain ⟨offset, len, hp, hm⟩ := h.stays hfits
    rw [hp, hm]
    rfl

/-- A parser that does the same in the buffer at hand. -/
theorem congr_right {p' : Parser α} (h : Tracks m p c fits result stop)
    (hp : p c.reader = p' c.reader) : Tracks m p' c fits result stop :=
  ⟨fun hfits => hp ▸ h.parses hfits, h.moves, fun hnot => hp ▸ h.stays hnot⟩

end Tracks

theorem tracks_seek (c : Cursor) (target : UInt64) :
    Tracks (seek target) (Parser.seek target.toNat) c
      (target.toNat ≤ c.buffer.bytes.length) (pure ()) target.toNat := by
  constructor
  · intro hle
    unfold Parser.seek
    rw [if_pos (by simpa [Cursor.reader] using hle)]
    rfl
  · intro hle
    refine ⟨target, rfl, ?_⟩
    rw [seek, cursor_bind, if_neg (by omega)]
    rfl
  · intro hnot
    refine ⟨target.toNat, 0, ?_, ?_⟩
    · unfold Parser.seek
      rw [if_neg (by simpa [Cursor.reader] using hnot)]
      rfl
    · rw [seek, cursor_bind, if_pos (by omega)]
      rfl

theorem tracks_take (c : Cursor) (n : UInt64) :
    Tracks (take n) (Parser.take n.toNat) c
      (c.pos.toNat + n.toNat ≤ c.buffer.bytes.length)
      (pure (window c.buffer.bytes c.pos.toNat n.toNat)) (c.pos.toNat + n.toNat) := by
  constructor
  · intro hle
    rw [Cursor.reader, Parser.take_eq, if_pos hle]
    rfl
  · intro hle
    obtain ⟨stop, hsome, hstop⟩ := Buffer.exists_stretchEnd hle
    refine ⟨stop, hstop, ?_⟩
    rw [take, cursor_bind, hsome, window, ← Buffer.slice_eq hstop]
    rfl
  · intro hnot
    refine ⟨c.pos.toNat, n.toNat, ?_, ?_⟩
    · rw [Cursor.reader, Parser.take_eq, if_neg hnot]
    · rw [take, cursor_bind, Buffer.stretchEnd?_of_outside (by omega)]
      rfl

theorem tracks_text (d : TextDecoder) (c : Cursor) (n : UInt64) :
    Tracks (text d n) (Parser.text d n.toNat) c
      (c.pos.toNat + n.toNat ≤ c.buffer.bytes.length)
      (d.read (window c.buffer.bytes c.pos.toNat n.toNat)) (c.pos.toNat + n.toNat) :=
  (tracks_take c n).still d.read

theorem idxOf?_zero {name : List UInt8} (h : 0 ∉ name) (after : List UInt8) :
    (name ++ 0 :: after).idxOf? 0 = some name.length := by
  rw [List.idxOf?_eq_some_iff]
  refine ⟨by simp, by simp, fun j hj => ?_⟩
  rw [List.getElem_append_left hj]
  exact fun hzero => h (hzero ▸ List.getElem_mem hj)

/-- With a zero byte ahead, text is read and one more byte is gone over. -/
theorem tracks_name (d : TextDecoder) (c : Cursor) {name : List UInt8} (h : 0 ∉ name)
    (hat : StandsAt (name ++ [0]) c.buffer.bytes c.pos.toNat) :
    Parser.terminated d c.reader = (fun t => (t, ⟨c.buffer.bytes.toArray,
        c.pos.toNat + name.length + 1⟩)) <$> d.read name ∧
      ∃ pos : UInt64, pos.toNat = c.pos.toNat + name.length + 1 ∧
        (do
          let t ← text d (UInt64.ofNat name.length)
          let c ← cursor
          moveTo (c.pos + 1)
          return t : InPlace String) c = (d.read name, { c with pos }) := by
  have hle := hat.le
  rw [List.length_append, List.length_singleton] at hle
  have hbuffer := c.buffer.length_lt
  have hlen : (UInt64.ofNat name.length).toNat = name.length :=
    UInt64.toNat_ofNat_of_lt' (Nat.lt_of_le_of_lt (by omega) hbuffer)
  have hname : window c.buffer.bytes c.pos.toNat name.length = name := hat.left.take_drop
  have htext := tracks_text d c (UInt64.ofNat name.length)
  rw [hlen, hname] at htext
  constructor
  · rw [Cursor.reader, Parser.terminated_eq d h hat]
    show (Parser.text d name.length c.reader >>= fun s =>
      (do Parser.skip 1; return s.1 : Parser String) s.2) = _
    -- The byte after the text is there, so going over it cannot fail.
    have hskip : ∀ t : String, (do Parser.skip 1; return t : Parser String)
        ⟨c.buffer.bytes.toArray, c.pos.toNat + name.length⟩ =
          pure (t, ⟨c.buffer.bytes.toArray, c.pos.toNat + name.length + 1⟩) := by
      intro t
      show (Parser.take 1 _ >>= fun _ => _) >>= _ = _
      rw [Parser.take_eq, if_pos (by omega)]
      rfl
    rw [htext.parses (by omega), bind_map_left, map_eq_pure_bind]
    simp only [hskip]
  · obtain ⟨pos, hpos, hmoved⟩ := htext.moves (by omega)
    refine ⟨pos + 1, ?_, ?_⟩
    · have hone : pos.toNat + (1 : UInt64).toNat = c.pos.toNat + name.length + 1 := by
        rw [hpos]
        rfl
      rw [toNat_add_of_lt (by omega), hone]
    · rw [bind_of_ok hmoved (d.outcome_read name), cursor_bind]
      show (Traced.mk ((d.read name).events ++ []) (.ok (d.decode name).text), _) = _
      rw [List.append_nil, ← d.outcome_read name]
      rfl

theorem tracks_terminated (d : TextDecoder) (c : Cursor) :
    Tracks (terminated d) (Parser.terminated d) c
      (0 ∈ c.buffer.bytes.drop c.pos.toNat)
      (d.readTerminated (c.buffer.bytes.drop c.pos.toNat))
      (c.pos.toNat + ((c.buffer.bytes.drop c.pos.toNat).takeWhile (· ≠ 0)).length + 1) := by
  by_cases hzero : 0 ∈ c.buffer.bytes.drop c.pos.toNat
  · obtain ⟨name, after, hrest, hname⟩ := List.eq_append_cons_of_mem hzero
    have hat : StandsAt (name ++ [0]) c.buffer.bytes c.pos.toNat := by
      have hlen := congrArg List.length hrest
      rw [List.length_drop, List.length_append, List.length_cons] at hlen
      refine standsAt_of_take_drop ?_ ?_
      · rw [List.length_append, List.length_singleton]
        omega
      · rw [hrest, List.append_cons name 0 after, List.take_left]
    have htake : (c.buffer.bytes.drop c.pos.toNat).takeWhile (· ≠ 0) = name := by
      rw [hrest, takeWhile_zero hname]
    obtain ⟨hparse, pos, hpos, hmove⟩ := tracks_name d c hname hat
    rw [TextDecoder.readTerminated, htake]
    refine ⟨fun _ => hparse, fun _ => ⟨pos, hpos, ?_⟩, fun hnot => absurd hzero hnot⟩
    rw [terminated, cursor_bind]
    simp only [hrest, idxOf?_zero hname]
    exact hmove
  · refine ⟨fun h => absurd h hzero, fun h => absurd h hzero, fun _ => ?_⟩
    refine ⟨c.pos.toNat, _, Parser.terminated_of_no_zero d hzero, ?_⟩
    rw [terminated, cursor_bind]
    simp only [List.idxOf?_eq_none_iff.mpr hzero]
    rfl

end InPlace

/-! ## Numbers -/

namespace NumberFormat

/-- The reader's operation for a number. -/
def read : NumberFormat → Parser Int
  | .byte => return (← Parser.byte).toNat
  | .word16 => return (← Parser.word16).toNat
  | .int16 => return (← Parser.int16).toInt
  | .word32 => return (← Parser.word32).toNat
  | .int32 => return (← Parser.int32).toInt
  | .int64 => return (← Parser.int64).toInt
  | .float32 => return (← Parser.word32).toNat
  | .float64 => return (← Parser.word64).toNat

/-- Whether a number can be written in a format. -/
def Holds (k : NumberFormat) (n : Int) : Prop :=
  if k.signed then -k.count ≤ 2 * n ∧ 2 * n < k.count
  else 0 ≤ n ∧ n < k.count

/-- The bytes of a number, the least significant first, a negative one counted
down from the end of the range. -/
def spelling (k : NumberFormat) (n : Int) : List UInt8 :=
  leBytes k.width (n % k.count).toNat

/-- A number is read back from its bytes. -/
theorem value_spelling {k : NumberFormat} {n : Int} (h : k.Holds n) :
    k.value (k.spelling n) = n := by
  have hlt : (n % k.count).toNat < k.count := by
    cases k <;> simp [count, width] <;> omega
  rw [value, spelling, leNat_leBytes_of_lt hlt]
  cases k <;> simp [Holds, signed, count, width] at h ⊢ <;> omega

/-- The number that the reader makes of the bytes it has taken. -/
def parsed : NumberFormat → List UInt8 → Int
  | .byte, bytes => (UInt8.ofNat (leNat bytes)).toNat
  | .word16, bytes => (leWord16 bytes).toNat
  | .int16, bytes => (leWord16 bytes).toInt16.toInt
  | .word32, bytes | .float32, bytes => (leWord32 bytes).toNat
  | .int32, bytes => (leWord32 bytes).toInt32.toInt
  | .int64, bytes => (leWord64 bytes).toInt64.toInt
  | .float64, bytes => (leWord64 bytes).toNat

theorem parsed_eq (k : NumberFormat) {bytes : List UInt8} (h : bytes.length = k.width) :
    k.parsed bytes = k.value bytes := by
  have hlt := leNat_lt bytes
  rw [h] at hlt
  cases k with
  | byte | word16 | word32 | float32 | float64 =>
    simp [parsed, value, signed, leWord16, leWord32, leWord64, width] at hlt ⊢
    omega
  | int16 =>
    have hword : (leWord16 bytes).toNat = leNat bytes := UInt16.toNat_ofNat_of_lt' hlt
    have hcount : count .int16 = 65536 := rfl
    simp only [parsed, value, signed, hcount, Int16.toInt, UInt16.toBitVec_toInt16,
      BitVec.toInt_eq_toNat_cond, UInt16.toNat_toBitVec, hword]
    grind
  | int32 =>
    have hword : (leWord32 bytes).toNat = leNat bytes := UInt32.toNat_ofNat_of_lt' hlt
    have hcount : count .int32 = 4294967296 := rfl
    simp only [parsed, value, signed, hcount, Int32.toInt, UInt32.toBitVec_toInt32,
      BitVec.toInt_eq_toNat_cond, UInt32.toNat_toBitVec, hword]
    grind
  | int64 =>
    have hword : (leWord64 bytes).toNat = leNat bytes := UInt64.toNat_ofNat_of_lt' hlt
    have hcount : count .int64 = 18446744073709551616 := rfl
    simp only [parsed, value, signed, hcount, Int64.toInt, UInt64.toBitVec_toInt64,
      BitVec.toInt_eq_toNat_cond, UInt64.toNat_toBitVec, hword]
    grind

theorem read_eq (k : NumberFormat) :
    k.read = (do return k.parsed (← Parser.take k.width)) := by
  cases k <;> simp only [read, Parser.byte, Parser.word16, Parser.int16, Parser.word32,
    Parser.int32, Parser.word64, Parser.int64, bind_assoc, pure_bind, parsed, width]

end NumberFormat

theorem InPlace.tracks_number (c : Cursor) (k : NumberFormat) :
    Tracks (number k) k.read c
      (c.pos.toNat + k.width ≤ c.buffer.bytes.length)
      (pure (k.value (window c.buffer.bytes c.pos.toNat k.width))) (c.pos.toNat + k.width) := by
  have hwidth : (UInt64.ofNat k.width).toNat = k.width := by cases k <;> rfl
  have htake := (tracks_take c (UInt64.ofNat k.width)).map k.value
  rw [hwidth, map_pure] at htake
  refine htake.congr_right ?_
  rw [k.read_eq]
  exact Parser.map_take_congr (fun _ hlen => (k.parsed_eq hlen).symm) _ _

end SceneScript
