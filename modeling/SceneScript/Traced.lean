import SceneScript.Event
import SceneScript.Fault

/-
  Computations that may fail and report events on the way. A run is the list
  of its events, in order, and its outcome. A failed step keeps the events
  reported before it and stops the rest. Forgetting the events is a map of
  monads (`outcome_pure`, `outcome_bind`), so a statement about outcomes never
  has to look at the log.
-/

namespace SceneScript

/-- The events and the outcome of one computation. -/
structure Traced (α : Type) where
  events : List Event
  outcome : Except Fault α

namespace Traced

variable {α β γ : Type}

@[ext] theorem ext {x y : Traced α} (he : x.events = y.events)
    (ho : x.outcome = y.outcome) : x = y := by
  cases x; cases y; simp_all

/-- A result with nothing reported. -/
def ok (a : α) : Traced α := ⟨[], .ok a⟩

def fail (f : Fault) : Traced α := ⟨[], .error f⟩

def report (e : Event) : Traced Unit := ⟨[e], .ok ()⟩

/-- Run `x`, then `f` on its result. -/
def andThen (x : Traced α) (f : α → Traced β) : Traced β :=
  match x.outcome with
  | .ok a => ⟨x.events ++ (f a).events, (f a).outcome⟩
  | .error e => ⟨x.events, .error e⟩

instance : Monad Traced where
  pure := ok
  bind := andThen

@[simp] theorem events_pure (a : α) : (pure a : Traced α).events = [] := rfl

@[simp] theorem outcome_pure (a : α) : (pure a : Traced α).outcome = .ok a := rfl

@[simp] theorem events_fail (f : Fault) : (fail f : Traced α).events = [] := rfl

@[simp] theorem outcome_fail (f : Fault) : (fail f : Traced α).outcome = .error f := rfl

@[simp] theorem events_report (e : Event) : (report e).events = [e] := rfl

@[simp] theorem outcome_bind (x : Traced α) (f : α → Traced β) :
    (x >>= f).outcome = x.outcome.bind (fun a => (f a).outcome) := by
  show (andThen x f).outcome = _
  unfold andThen
  cases x.outcome <;> rfl

theorem bind_of_ok {x : Traced α} {a : α} (h : x.outcome = .ok a) (f : α → Traced β) :
    x >>= f = ⟨x.events ++ (f a).events, (f a).outcome⟩ := by
  show andThen x f = _
  unfold andThen
  rw [h]

theorem bind_of_error {x : Traced α} {e : Fault} (h : x.outcome = .error e)
    (f : α → Traced β) : x >>= f = ⟨x.events, .error e⟩ := by
  show andThen x f = _
  unfold andThen
  rw [h]

instance : LawfulMonad Traced := LawfulMonad.mk' Traced
  (fun x => by
    show andThen x (fun a => ok a) = x
    cases x with
    | mk es o => cases o <;> simp [andThen, ok])
  (fun a f => by
    show andThen (ok a) f = f a
    simp [andThen, ok])
  (fun x f g => by
    show andThen (andThen x f) g = andThen x (fun a => andThen (f a) g)
    cases x with
    | mk es o =>
      cases o with
      | error e => simp [andThen]
      | ok a =>
        simp only [andThen]
        cases (f a).outcome <;> simp)

/-- An outcome with nothing reported. -/
def ofExcept (r : Except Fault α) : Traced α := ⟨[], r⟩

end Traced

end SceneScript
