import SceneScript.Bytes.Parser

/-
  Computations that read text. `Textual S t` says that `t` uses its decoder for
  nothing but to read spans of bytes, and reports nothing outside `S` by
  itself. Two things follow for every such computation:

  1. all that it reports is in `S`, whatever the decoder (`Textual.reports`);
  2. with two decoders that agree on every span it reads, it has one outcome
     (`Textual.outcome_eq`).

  Which spans a run reads is told by the run itself, with a decoder that finds
  fault with every one of them (`TextDecoder.watched`, `Traced.spans`).
-/

namespace SceneScript

/-- The bytes that an event says are no text. -/
def Event.span? : Event → Option (List UInt8)
  | .undecodable _ bytes => some bytes
  | _ => none

/-- The spans that a run complains about, in order. -/
def Traced.spans {α : Type} (t : Traced α) : List (List UInt8) := t.events.filterMap Event.span?

/-- The decoder with the same texts that complains about every span it reads. -/
def TextDecoder.watched (d : TextDecoder) : TextDecoder :=
  ⟨d.name, fun bytes => ⟨(d.decode bytes).text, true⟩⟩

/-- Computations built from steps that know no decoder and readings of spans. -/
inductive Textual (S : Event → Prop) : {α : Type} → (TextDecoder → Traced α) → Prop where
  /-- A step that knows no decoder. -/
  | plain {α : Type} {t : Traced α} (h : ∀ e ∈ t.events, S e) : Textual S (fun _ => t)
  /-- A span of bytes read as text. -/
  | read (span : List UInt8) (h : ∀ name, S (.undecodable name span)) :
    Textual S (fun d => d.read span)
  | bind {α β : Type} {t : TextDecoder → Traced α} {f : TextDecoder → α → Traced β}
    (ht : Textual S t) (hf : ∀ a, Textual S (fun d => f d a)) : Textual S (fun d => t d >>= f d)

variable {S : Event → Prop} {α β σ : Type}

theorem Traced.mem_events_bind {t : Traced α} {f : α → Traced β} {e : Event}
    (h : e ∈ (t >>= f).events) : e ∈ t.events ∨ ∃ a, e ∈ (f a).events := by
  cases ht : t.outcome with
  | error f' =>
    rw [Traced.bind_of_error ht] at h
    exact .inl h
  | ok a =>
    rw [Traced.bind_of_ok ht] at h
    exact (List.mem_append.mp h).imp id (fun h => ⟨a, h⟩)

theorem Traced.exists_of_bind_ok {t : Traced α} {f : α → Traced β} {b : β}
    (h : (t >>= f).outcome = .ok b) :
    ∃ a, t.outcome = .ok a ∧ (f a).outcome = .ok b ∧
      (t >>= f).events = t.events ++ (f a).events := by
  cases ht : t.outcome with
  | error e =>
    rw [Traced.bind_of_error ht] at h
    cases h
  | ok a =>
    rw [Traced.bind_of_ok ht] at h ⊢
    exact ⟨a, rfl, h, rfl⟩

theorem TextDecoder.events_read (d : TextDecoder) (span : List UInt8) :
    (d.read span).events =
      if (d.decode span).malformed then [.undecodable d.name span] else [] := by
  unfold TextDecoder.read
  split <;> rfl

namespace Textual

variable {t : TextDecoder → Traced α}

/-! ## What it reports -/

theorem reports (h : Textual S t) (d : TextDecoder) : ∀ e ∈ (t d).events, S e := by
  induction h with
  | plain h => exact h
  | read span h =>
    intro e he
    simp only [TextDecoder.events_read] at he
    split at he
    · rw [List.mem_singleton.mp he]
      exact h d.name
    · cases he
  | bind _ _ iht ihf =>
    intro e he
    rcases Traced.mem_events_bind he with he | ⟨a, he⟩
    · exact iht e he
    · exact ihf a e he

theorem mono {S' : Event → Prop} (h : Textual S t) (hS : ∀ e, S e → S' e) : Textual S' t := by
  induction h with
  | plain h => exact .plain (fun e he => hS e (h e he))
  | read span h => exact .read span (fun name => hS _ (h name))
  | bind _ _ iht ihf => exact .bind iht ihf

/-! ## What it depends on -/

theorem outcome_watched_eq (h : Textual S t) {d e : TextDecoder}
    (hagree : ∀ span ∈ (t d.watched).spans, (d.decode span).text = (e.decode span).text) :
    (t e).outcome = (t d.watched).outcome := by
  induction h with
  | plain _ => rfl
  | read span _ =>
    rw [TextDecoder.outcome_read, TextDecoder.outcome_read]
    exact congrArg Except.ok (hagree span List.mem_cons_self).symm
  | @bind _ _ t f _ _ iht ihf =>
    have hspans : ∀ span ∈ (t d.watched >>= f d.watched).spans,
        (d.decode span).text = (e.decode span).text := hagree
    rw [Traced.outcome_bind, Traced.outcome_bind]
    -- The second step is run only if the first one succeeds, and then on the same result.
    cases hfirst : (t d.watched).outcome with
    | error g =>
      rw [Traced.spans, Traced.bind_of_error hfirst] at hspans
      rw [iht hspans, hfirst]
      rfl
    | ok a =>
      rw [Traced.spans, Traced.bind_of_ok hfirst, List.filterMap_append] at hspans
      rw [iht (fun span hspan => hspans span (List.mem_append_left _ hspan)), hfirst]
      exact ihf a (fun span hspan => hspans span (List.mem_append_right _ hspan))

/-- **Decoders that agree.** The outcome is the same with every decoder that
agrees on the spans that are read. -/
theorem outcome_eq (h : Textual S t) {d e : TextDecoder}
    (hagree : ∀ span ∈ (t d.watched).spans, (d.decode span).text = (e.decode span).text) :
    (t e).outcome = (t d).outcome :=
  (h.outcome_watched_eq hagree).trans (h.outcome_watched_eq (fun _ _ => rfl)).symm

theorem silent {t : Traced α} (h : t.events = []) : Textual S (fun _ => t) :=
  .plain (fun e he => by rw [h] at he; cases he)

theorem report {e : Event} (h : S e) : Textual S (fun _ => Traced.report e) :=
  .plain (fun _ he => List.mem_singleton.mp he ▸ h)

theorem ite {u : TextDecoder → Traced α} {c : Prop} [Decidable c] (ht : c → Textual S t)
    (hu : ¬ c → Textual S u) : Textual S (fun d => if c then t d else u d) := by
  by_cases h : c
  · simp only [if_pos h]
    exact ht h
  · simp only [if_neg h]
    exact hu h

theorem map (h : Textual S t) (f : α → β) : Textual S (fun d => f <$> t d) := by
  simp only [map_eq_pure_bind]
  exact .bind h (fun _ => .silent rfl)

end Textual

/-! ## Computations with a state -/

/-- Textual from every state on. -/
def TextualFrom (S : Event → Prop) (p : TextDecoder → StateT σ Traced α) : Prop :=
  ∀ s, Textual S (fun d => p d s)

namespace TextualFrom

variable {p q : TextDecoder → StateT σ Traced α}

theorem pure (a : α) : TextualFrom S (fun _ => (Pure.pure a : StateT σ Traced α)) :=
  fun _ => .silent rfl

theorem bind {f : TextDecoder → α → StateT σ Traced β} (hp : TextualFrom S p)
    (hf : ∀ a, TextualFrom S (fun d => f d a)) : TextualFrom S (fun d => p d >>= f d) := by
  intro s
  show Textual S (fun d => p d s >>= fun result => f d result.1 result.2)
  exact .bind (hp s) (fun result => hf result.1 result.2)

theorem map (hp : TextualFrom S p) (f : α → β) :
    TextualFrom S (fun d => do return f (← p d)) :=
  hp.bind (fun a => pure (f a))

/-- A step that does not touch the state. -/
theorem lift {t : TextDecoder → Traced α} (h : Textual S t) :
    TextualFrom S (fun d => (liftM (t d) : StateT σ Traced α)) := by
  intro s
  show Textual S (fun d => t d >>= fun a => Pure.pure (a, s))
  exact .bind h (fun _ => .silent rfl)

theorem ite {c : Prop} [Decidable c] (hp : c → TextualFrom S p) (hq : ¬ c → TextualFrom S q) :
    TextualFrom S (fun d => if c then p d else q d) := by
  by_cases h : c
  · simp only [if_pos h]
    exact hp h
  · simp only [if_neg h]
    exact hq h

/-- A step that knows no decoder and reports nothing. -/
theorem silent {p : StateT σ Traced α} (h : ∀ s, (p s).events = []) :
    TextualFrom S (fun _ => p) :=
  fun s => .silent (h s)

end TextualFrom

end SceneScript
