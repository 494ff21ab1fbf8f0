import SceneScript.Proofs.Bytes.MaskEffect
import SceneScript.Proofs.Bytes.TwoBuffers
import SceneScript.Scene.KeyStream

/-
  Key streams and masks. A mask counts the bytes it has covered, and a key
  stream knows its place in the pattern only (`KeyStream.Tracks`). Both do the
  same step by step, so the bytes that a stream covers, put one after the
  other, are masked as one, however they were split into steps
  (`KeyStream.continuous_run`).
-/

namespace SceneScript

namespace Mask

theorem apply_nil (m : Mask) : m.apply [] = ([], m) := rfl

theorem apply_cons (m : Mask) (b : UInt8) (rest : List UInt8) :
    m.apply (b :: rest) =
      ((b ^^^ keyByte m.key m.used) :: (apply ⟨m.key, m.used + 1⟩ rest).1,
        (apply ⟨m.key, m.used + 1⟩ rest).2) := by
  simp only [apply, List.mapIdx_cons, List.length_cons, Nat.add_zero, Nat.add_assoc,
    Nat.add_comm 1]

/-- Bytes masked in two pieces. -/
theorem apply_append (m : Mask) (a b : List UInt8) :
    m.apply (a ++ b) =
      ((m.apply a).1 ++ (apply ⟨m.key, m.used + a.length⟩ b).1,
        ⟨m.key, m.used + a.length + b.length⟩) := by
  simp only [apply, List.mapIdx_append, List.length_append, Nat.add_assoc,
    Nat.add_comm a.length]

/-- All bytes masked. -/
theorem overlay_whole (m : Mask) (bytes : List UInt8) :
    overlay m.key m.used 0 (0 + bytes.length) bytes = (m.apply bytes).1 := by
  apply List.ext_getElem (by simp [apply])
  intro i h₁ h₂
  rw [length_overlay] at h₁
  simp only [overlay, apply, List.getElem_mapIdx]
  rw [if_pos ⟨Nat.zero_le i, by omega⟩, Nat.sub_zero]

/-- A masked stretch is masked by itself. -/
theorem window_overlay (m : Mask) (bytes : List UInt8) (start len : Nat) :
    window (overlay m.key m.used start (start + len) bytes) start len =
      (m.apply (window bytes start len)).1 := by
  apply List.ext_getElem (by simp [apply, window])
  intro i h₁ h₂
  have hi : i < len := by
    simp only [window, List.length_take, length_overlay, List.length_drop] at h₁
    omega
  simp only [window, overlay, apply, List.getElem_take, List.getElem_drop, List.getElem_mapIdx]
  rw [if_pos ⟨by omega, by omega⟩, Nat.add_sub_cancel_left]

/-- Outside of the masked stretch nothing changes. -/
theorem getElem?_overlay (key : UInt32) (used : Nat) {start stop i : Nat}
    (bytes : List UInt8) (h : ¬ (start ≤ i ∧ i < stop)) :
    (overlay key used start stop bytes)[i]? = bytes[i]? := by
  rw [overlay, List.getElem?_mapIdx]
  simp only [h, if_false, Option.map_id']

end Mask

namespace KeyStream

/-- A stream that stands where a mask has come to. -/
structure Tracks (s : KeyStream) (m : Mask) : Prop where
  key : s.key = m.key
  pattern : s.pattern = (ofKey m.key).pattern
  phase : s.phase.val = m.used % 8

theorem tracks_ofKey (key : UInt32) : Tracks (ofKey key) (Mask.ofKey key) := ⟨rfl, rfl, rfl⟩

theorem toUInt8_shift (key : UInt32) {n : UInt32} {i : Nat} (h : n.toNat = 8 * (i % 4)) :
    (key >>> n).toUInt8 = Mask.keyByte key i := by
  apply UInt8.toNat_inj.mp
  have hpow : Nat.pow 256 (i % 4) = 2 ^ (8 * (i % 4)) := (Nat.pow_mul 2 8 (i % 4)).symm
  have hsmall : 8 * (i % 4) % 32 = 8 * (i % 4) := by omega
  rw [UInt32.toNat_toUInt8, UInt32.toNat_shiftRight, h, hsmall, Nat.shiftRight_eq_div_pow,
    Mask.keyByte, hpow, UInt8.toNat_ofNat']

/-- The place in the pattern tells which key byte stands there. -/
theorem pattern_ofKey (key : UInt32) (i : Fin 8) :
    (ofKey key).pattern.get i = Mask.keyByte key i := by
  match i with
  | 0 => exact toUInt8_shift (n := 0) key rfl
  | 1 => exact toUInt8_shift (n := 8) key rfl
  | 2 => exact toUInt8_shift (n := 16) key rfl
  | 3 => exact toUInt8_shift (n := 24) key rfl
  | 4 => exact toUInt8_shift (n := 0) key rfl
  | 5 => exact toUInt8_shift (n := 8) key rfl
  | 6 => exact toUInt8_shift (n := 16) key rfl
  | 7 => exact toUInt8_shift (n := 24) key rfl

variable {s : KeyStream} {m : Mask}

/-- The byte of the pattern is the byte of the key that is due. -/
theorem Tracks.byte (h : Tracks s m) : s.pattern.get s.phase = Mask.keyByte m.key m.used := by
  have hmod : s.phase.val % 4 = m.used % 4 := by
    rw [h.phase]
    omega
  rw [h.pattern, pattern_ofKey, Mask.keyByte, Mask.keyByte, hmod]

theorem Tracks.next (h : Tracks s m) :
    Tracks { s with phase := s.phase + 1 } ⟨m.key, m.used + 1⟩ := by
  refine ⟨h.key, h.pattern, ?_⟩
  show (s.phase + 1 : Fin 8).val = _
  rw [Fin.val_add, h.phase]
  simp

/-- A stream covers bytes as a mask does, and they go on together. -/
theorem Tracks.apply (h : Tracks s m) (bytes : List UInt8) :
    (s.apply bytes).1 = (m.apply bytes).1 ∧ Tracks (s.apply bytes).2 (m.apply bytes).2 := by
  induction bytes generalizing s m with
  | nil => exact ⟨rfl, h⟩
  | cons b rest ih =>
    obtain ⟨hbytes, htracks⟩ := ih h.next
    rw [KeyStream.apply, Mask.apply_cons, h.byte, hbytes]
    exact ⟨rfl, htracks⟩

namespace Step

/-- The bytes a step is given. -/
def bytes : Step → List UInt8
  | .all bytes => bytes
  | .region b _ _ => b.bytes

/-- The first byte to cover. -/
def offset : Step → Nat
  | .all _ => 0
  | .region _ offset _ => offset.toNat

/-- How many bytes to cover. -/
def len : Step → Nat
  | .all bytes => bytes.length
  | .region _ _ len => len.toNat

/-- Whether the bytes to cover are there. -/
def Fits (step : Step) : Prop := step.offset + step.len ≤ step.bytes.length

/-- The step with a mask. -/
def mask (m : Mask) : Step → Except Fault (List UInt8 × Mask)
  | .all bytes => .ok (m.apply bytes)
  | .region b offset len => m.applyRegion b.bytes offset.toNat len.toNat

/-- A mask takes the same stretch of any step. -/
theorem mask_of_fits (m : Mask) {step : Step} (h : step.Fits) :
    step.mask m = .ok (Mask.overlay m.key m.used step.offset (step.offset + step.len) step.bytes,
      ⟨m.key, m.used + step.len⟩) := by
  cases step with
  | all bytes => exact congrArg (fun b => Except.ok (b, _)) (m.overlay_whole bytes).symm
  | region b offset len => exact m.applyRegion_of_fits h

/-- Where its bytes are there, a step covers them as a mask does. -/
theorem perform_of_fits (h : Tracks s m) {step : Step} (hfits : step.Fits) :
    ∃ s', step.perform s =
        ⟨Mask.overlay m.key m.used step.offset (step.offset + step.len) step.bytes, .ok (), s'⟩ ∧
      Tracks s' ⟨m.key, m.used + step.len⟩ := by
  cases step with
  | all bytes =>
    obtain ⟨hbytes, htracks⟩ := h.apply bytes
    refine ⟨_, ?_, htracks⟩
    rw [perform, hbytes]
    exact congrArg (fun b => Stepped.mk b _ _) (m.overlay_whole bytes).symm
  | region b offset len =>
    have hle : offset.toNat + len.toNat ≤ b.bytes.length := hfits
    obtain ⟨stop, hsome, hstop⟩ := Buffer.exists_stretchEnd hle
    obtain ⟨hbytes, htracks⟩ := h.apply (b.slice offset stop)
    -- The mask takes the same bytes out of the buffer and puts them back there.
    have hmask := m.applyRegion_of_fits hle
    rw [Mask.applyRegion, if_pos hle, ← Buffer.slice_eq hstop, ← hstop] at hmask
    obtain ⟨hregion, hused⟩ := Prod.mk.inj (Except.ok.inj hmask)
    rw [hstop] at hregion
    refine ⟨(s.apply (b.slice offset stop)).2, ?_, hused ▸ htracks⟩
    rw [perform, applyRegion, hsome]
    simp only [hbytes, hregion, hstop]
    rfl

/-- Where its bytes are not there, a step is refused and does nothing. -/
theorem perform_of_not_fits (h : Tracks s m) {step : Step} (hnot : ¬ step.Fits) :
    ∃ fault, step.perform s = ⟨step.bytes, .error fault, s⟩ ∧ step.mask m = .error fault := by
  cases step with
  | all bytes => exact absurd (Nat.le_of_eq (Nat.zero_add _)) hnot
  | region b offset len =>
    have hleaves : ¬ offset.toNat + len.toNat ≤ b.bytes.length := hnot
    refine ⟨.badKey s.key offset.toNat len.toNat b.bytes.length, ?_, ?_⟩
    · rw [perform, applyRegion, Buffer.stretchEnd?_of_outside (Nat.lt_of_not_le hleaves)]
      rfl
    · rw [Step.mask, Mask.applyRegion, if_neg hleaves, h.key]

end Step

namespace Entry

/-- The bytes of a step that were covered, as they were before. -/
def input (e : Entry) : List UInt8 :=
  match e.done.outcome with
  | .ok _ => window e.step.bytes e.step.offset e.step.len
  | .error _ => []

/-- The bytes of a step that were covered, as they were then. -/
def output (e : Entry) : List UInt8 :=
  match e.done.outcome with
  | .ok _ => window e.done.bytes e.step.offset e.step.len
  | .error _ => []

/-- A step is done at its own place only, or not at all. -/
structure Sound (e : Entry) : Prop where
  fails : (∃ fault, e.done.outcome = .error fault) ↔
    e.step.bytes.length < e.step.offset + e.step.len
  refused : ∀ fault, e.done.outcome = .error fault →
    e.done.bytes = e.step.bytes ∧ e.done.stream = e.before
  length : e.done.bytes.length = e.step.bytes.length
  outside : ∀ i, ¬ (e.step.offset ≤ i ∧ i < e.step.offset + e.step.len) →
    e.done.bytes[i]? = e.step.bytes[i]?

end Entry

/-- A step goes as the mask goes, which then covers its bytes. -/
structure Entry.Follows (m : Mask) (e : Entry) : Prop where
  sound : e.Sound
  output : e.output = (m.apply e.input).1
  next : Tracks e.done.stream ⟨m.key, m.used + e.input.length⟩
  mask : e.step.mask m = e.done.outcome.map
    (fun _ => (e.done.bytes, ⟨m.key, m.used + e.input.length⟩))

theorem Entry.follows_of_fits (h : Tracks s m) {step : Step} (hfits : step.Fits) :
    Entry.Follows m ⟨s, step, step.perform s⟩ := by
  obtain ⟨s', hdone, htracks⟩ := Step.perform_of_fits h hfits
  have hle : ¬ step.bytes.length < step.offset + step.len := Nat.not_lt_of_le hfits
  have hinput : Entry.input ⟨s, step, step.perform s⟩ =
      window step.bytes step.offset step.len := by
    simp only [Entry.input, hdone]
  have hlen : (Entry.input ⟨s, step, step.perform s⟩).length = step.len := by
    rw [hinput, window, List.length_take, List.length_drop]
    unfold Step.Fits at hfits
    omega
  refine ⟨⟨?_, ?_, ?_, ?_⟩, ?_, ?_, ?_⟩
  · simp [hdone, hle]
  · simp [hdone]
  · simp [hdone]
  · intro i hi
    simp only [hdone]
    exact Mask.getElem?_overlay _ _ _ hi
  · rw [hinput, ← Mask.window_overlay]
    simp only [Entry.output, hdone]
  · rw [hlen]
    simpa only [hdone] using htracks
  · rw [hlen, Step.mask_of_fits m hfits]
    simp only [hdone]
    rfl

/-- A refused step takes nothing in, so the mask stays where it was. -/
theorem Entry.follows_of_not_fits (h : Tracks s m) {step : Step} (hnot : ¬ step.Fits) :
    Entry.Follows m ⟨s, step, step.perform s⟩ := by
  obtain ⟨fault, hdone, hmask⟩ := Step.perform_of_not_fits h hnot
  have hlt : step.bytes.length < step.offset + step.len := Nat.lt_of_not_le hnot
  have hinput : Entry.input ⟨s, step, step.perform s⟩ = [] := by
    simp only [Entry.input, hdone]
  refine ⟨⟨?_, ?_, ?_, ?_⟩, ?_, ?_, ?_⟩
  · simp [hdone, hlt]
  · simp [hdone]
  · simp [hdone]
  · simp [hdone]
  · rw [hinput, Mask.apply_nil]
    simp only [Entry.output, hdone]
  · rw [hinput, List.length_nil, Nat.add_zero]
    simpa only [hdone] using h
  · rw [hmask]
    simp only [hdone]
    rfl

theorem Tracks.entry (h : Tracks s m) (step : Step) :
    Entry.Follows m ⟨s, step, step.perform s⟩ := by
  by_cases hfits : step.Fits
  · exact Entry.follows_of_fits h hfits
  · exact Entry.follows_of_not_fits h hfits

/-- The steps of a run with a mask, refused ones included. -/
def maskRun : Mask → List Step → List (List UInt8 × Except Fault Unit)
  | _, [] => []
  | m, step :: rest =>
    match step.mask m with
    | .ok next => (next.1, .ok ()) :: maskRun next.2 rest
    | .error fault => (step.bytes, .error fault) :: maskRun m rest

/-- Bytes combined with the four key bytes, repeated from the first byte on. -/
def masked (key : UInt32) (bytes : List UInt8) : List UInt8 :=
  bytes.mapIdx (fun i b => b ^^^ (leBytes 4 key.toNat).getD (i % 4) 0)

theorem masked_eq (key : UInt32) (bytes : List UInt8) :
    ((Mask.ofKey key).apply bytes).1 = masked key bytes := by
  simp only [Mask.apply, Mask.ofKey, Nat.zero_add, Mask.keyByte_eq, masked]

/-- What holds of a run of steps, all on one stream. -/
structure Continuous (key : UInt32) (steps : List Step) : Prop where
  done : ((ofKey key).run steps).map (·.step) = steps
  sound : ∀ e ∈ (ofKey key).run steps, e.Sound
  /-- The covered bytes, one after the other, are masked as one. -/
  stream : ((ofKey key).run steps).flatMap Entry.output =
    masked key (((ofKey key).run steps).flatMap Entry.input)
  /-- The mask of scenes does the same. -/
  mask : ((ofKey key).run steps).map (fun e => (e.done.bytes, e.done.outcome)) =
    maskRun (Mask.ofKey key) steps

theorem run_steps (s : KeyStream) (steps : List Step) : (s.run steps).map (·.step) = steps := by
  induction steps generalizing s with
  | nil => rfl
  | cons step rest ih => rw [run, List.map_cons, ih]

theorem Tracks.sound_run (h : Tracks s m) (steps : List Step) :
    ∀ e ∈ s.run steps, e.Sound := by
  induction steps generalizing s m with
  | nil => intro e he; cases he
  | cons step rest ih =>
    have hentry := h.entry step
    intro e he
    rcases List.mem_cons.mp he with rfl | he
    · exact hentry.sound
    · exact ih hentry.next e he

/-- The invariant of a run: the mask has come as far as bytes were covered. -/
theorem Tracks.output_run (h : Tracks s m) (steps : List Step) :
    (s.run steps).flatMap Entry.output = (m.apply ((s.run steps).flatMap Entry.input)).1 := by
  induction steps generalizing s m with
  | nil => rfl
  | cons step rest ih =>
    have hentry := h.entry step
    rw [run, List.flatMap_cons, List.flatMap_cons, Mask.apply_append, hentry.output]
    exact congrArg _ (ih hentry.next)

theorem Tracks.mask_run (h : Tracks s m) (steps : List Step) :
    (s.run steps).map (fun e => (e.done.bytes, e.done.outcome)) = maskRun m steps := by
  induction steps generalizing s m with
  | nil => rfl
  | cons step rest ih =>
    have hentry := h.entry step
    rw [run, List.map_cons, maskRun, hentry.mask, ih hentry.next]
    cases hdone : (step.perform s).outcome with
    | ok _ => rfl
    | error fault =>
      have hbytes : (step.perform s).bytes = step.bytes := (hentry.sound.refused fault hdone).1
      have hinput : Entry.input ⟨s, step, step.perform s⟩ = [] := by
        simp only [Entry.input, hdone]
      simp only [hinput, hbytes, List.length_nil, Nat.add_zero]
      rfl

/-- **A key stream is one continuous stream.** However bytes are split into
steps, and whatever regions are refused in between, the bytes covered are
combined with the key bytes repeated from the start of the first step. -/
theorem continuous_run (key : UInt32) (steps : List Step) : Continuous key steps where
  done := run_steps (ofKey key) steps
  sound := (tracks_ofKey key).sound_run steps
  stream := ((tracks_ofKey key).output_run steps).trans (masked_eq key _)
  mask := (tracks_ofKey key).mask_run steps

/-- A region whose end wraps around is refused, and the stream goes on after it
as if it had not been there. -/
example : ((ofKey 0x04030201).run [.all [0, 0, 0],
    .region ⟨[9, 9, 9], by decide⟩ 2 0xFFFFFFFFFFFFFFFF,
    .region ⟨[0, 0, 0, 0, 0, 0], by decide⟩ 1 4]).map (·.done.bytes) =
      [[1, 2, 3], [9, 9, 9], [0, 4, 1, 2, 3, 0]] := by decide

end KeyStream

end SceneScript
