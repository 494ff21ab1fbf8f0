import SceneScript.Traced

/-
  Two runs side by side. `Agree` relates two outcomes: both succeed with
  related results or both fail with the same fault, and where something may
  have been cut off, the first may also fail for want of data whatever the
  second does. `Abreast` says this of two computations on a state, started at
  the same place; it has a closure algebra (`pure`, `bind`, `map`, `lift`, `ite`),
  so that two runs of one program are compared step by step. With the same
  computation and the same state on both sides it says what a run relies on.
-/

namespace SceneScript

variable {α β γ δ σ : Type}

/-- Two outcomes side by side. `cut` allows the first one to lack data. -/
inductive Agree (cut : Prop) (R : α → β → Prop) : Except Fault α → Except Fault β → Prop where
  /-- Both succeed. -/
  | ok {x : α} {y : β} (h : R x y) : Agree cut R (.ok x) (.ok y)
  /-- Both fail, and for one reason. -/
  | fault (f : Fault) : Agree cut R (.error f) (.error f)
  /-- The first lacks data. -/
  | short {f : Fault} {o : Except Fault β} (hcut : cut) (hf : f.kind = .bounds) :
      Agree cut R (.error f) o

namespace Agree

variable {cut cut' : Prop} {R R' : α → β → Prop}

theorem mono {x : Except Fault α} {y : Except Fault β} (h : Agree cut R x y)
    (hcut : cut → cut') (hR : ∀ a b, R a b → R' a b) : Agree cut' R' x y := by
  cases h with
  | ok h => exact .ok (hR _ _ h)
  | fault f => exact .fault f
  | short hc hf => exact .short (hcut hc) hf

theorem of_eq {x y : Except Fault α} (h : x = y) : Agree cut Eq x y := by
  subst h
  cases x with
  | ok a => exact .ok rfl
  | error f => exact .fault f

/-- Where nothing was cut off, outcomes that agree are equal. -/
theorem eq {x y : Except Fault α} (h : Agree False Eq x y) : x = y := by
  cases h with
  | ok h => rw [h]
  | fault f => rfl
  | short hc _ => exact hc.elim

/-- What succeeds on part of the data succeeds on all of it. -/
theorem eq_ok {x : α} {y : Except Fault α} (h : Agree cut Eq (.ok x) y) : y = .ok x := by
  cases h with
  | ok h => rw [h]

/-- What succeeds on all of the data succeeds on part of it, or lacks some. -/
theorem eq_ok_or {x : Except Fault α} {y : α} (h : Agree cut Eq x (.ok y)) :
    x = .ok y ∨ ∃ f, x = .error f ∧ f.kind = .bounds := by
  cases h with
  | ok h => exact .inl (by rw [h])
  | short _ hf => exact .inr ⟨_, rfl, hf⟩

theorem bind {S : γ → δ → Prop} {x : Except Fault α} {y : Except Fault β}
    {f : α → Except Fault γ} {g : β → Except Fault δ} (h : Agree cut R x y)
    (hf : ∀ a b, x = .ok a → R a b → Agree cut S (f a) (g b)) :
    Agree cut S (x.bind f) (y.bind g) := by
  cases h with
  | ok h => exact hf _ _ rfl h
  | fault f => exact .fault f
  | short hc hb => exact .short hc hb

/-- The outcomes of two traced computations agree if those of their first
steps do and what follows agrees. -/
theorem traced {S : γ → δ → Prop} {x : Traced α} {y : Traced β} {f : α → Traced γ}
    {g : β → Traced δ} (h : Agree cut R x.outcome y.outcome)
    (hf : ∀ a b, x.outcome = .ok a → R a b → Agree cut S (f a).outcome (g b).outcome) :
    Agree cut S (x >>= f).outcome (y >>= g).outcome := by
  rw [Traced.outcome_bind, Traced.outcome_bind]
  exact h.bind hf

end Agree

/-- Two lists of one length whose items, numbered from `k` on, are related. -/
inductive Each (Q : Nat → α → β → Prop) : Nat → List α → List β → Prop where
  | nil {k : Nat} : Each Q k [] []
  | cons {k : Nat} {x : α} {y : β} {xs : List α} {ys : List β} (h : Q k x y)
      (hs : Each Q (k + 1) xs ys) : Each Q k (x :: xs) (y :: ys)

namespace Each

variable {Q Q' : Nat → α → β → Prop} {k : Nat}

theorem mono {xs : List α} {ys : List β} (h : Each Q k xs ys)
    (hQ : ∀ j x y, Q j x y → Q' j x y) : Each Q' k xs ys := by
  induction h with
  | nil => exact .nil
  | cons h _ ih => exact .cons (hQ _ _ _ h) ih

theorem eq {Q : Nat → α → α → Prop} {xs ys : List α} (h : Each Q k xs ys)
    (hQ : ∀ j x y, Q j x y → x = y) : xs = ys := by
  induction h with
  | nil => rfl
  | cons h _ ih => rw [hQ _ _ _ h, ih]

end Each

/-- Two computations side by side, on states that stand at one place, keep to
one place and have related results. `At` says which states stand where. -/
def Abreast (cut : Prop) (At : Nat → σ → σ → Prop) (start : Nat) (p : StateT σ Traced α)
    (q : StateT σ Traced β) (R : α → β → Nat → Prop) : Prop :=
  ∀ s t, At start s t →
    Agree cut (fun a b => ∃ stop, At stop a.2 b.2 ∧ R a.1 b.1 stop) (p s).outcome (q t).outcome

namespace Abreast

variable {cut : Prop} {At : Nat → σ → σ → Prop} {start : Nat} {p : StateT σ Traced α}
  {q : StateT σ Traced β} {R R' : α → β → Nat → Prop} {S : γ → δ → Nat → Prop}

theorem pure {x : α} {y : β} (h : R x y start) :
    Abreast cut At start (Pure.pure x) (Pure.pure y) R :=
  fun _ _ hat => .ok ⟨start, hat, h⟩

theorem mono (h : Abreast cut At start p q R) (hR : ∀ x y stop, R x y stop → R' x y stop) :
    Abreast cut At start p q R' :=
  fun s t hat => (h s t hat).mono id
    (fun _ _ ⟨stop, hstop, hr⟩ => ⟨stop, hstop, hR _ _ stop hr⟩)

theorem bind {f : α → StateT σ Traced γ} {g : β → StateT σ Traced δ}
    (h : Abreast cut At start p q R)
    (hf : ∀ x y stop, R x y stop → Abreast cut At stop (f x) (g y) S) :
    Abreast cut At start (p >>= f) (q >>= g) S := by
  intro s t hat
  show Agree cut _ (p s >>= fun a => f a.1 a.2).outcome (q t >>= fun b => g b.1 b.2).outcome
  refine (h s t hat).traced ?_
  rintro a b _ ⟨stop, hstop, hr⟩
  exact hf a.1 b.1 stop hr a.2 b.2 hstop

theorem map {f : α → γ} {g : β → δ} (h : Abreast cut At start p q R)
    (hf : ∀ x y stop, R x y stop → S (f x) (g y) stop) :
    Abreast cut At start (do return f (← p)) (do return g (← q)) S :=
  h.bind (fun x y stop hr => pure (hf x y stop hr))

/-- Steps that do not touch the state. -/
theorem lift {t : Traced α} {u : Traced β} {T : α → β → Prop}
    (h : Agree cut T t.outcome u.outcome) :
    Abreast cut At start (liftM t) (liftM u) (fun x y stop => T x y ∧ stop = start) := by
  intro s s' hat
  show Agree cut _ (t >>= fun x => Pure.pure (x, s)).outcome
    (u >>= fun y => Pure.pure (y, s')).outcome
  exact h.traced (fun x y _ hT => .ok ⟨start, hat, hT, rfl⟩)

theorem ite {c c' : Prop} [Decidable c] [Decidable c'] {p₁ p₂ : StateT σ Traced α}
    {q₁ q₂ : StateT σ Traced β} (hc : c ↔ c') (h₁ : c → Abreast cut At start p₁ q₁ R)
    (h₂ : ¬ c → Abreast cut At start p₂ q₂ R) :
    Abreast cut At start (if c then p₁ else p₂) (if c' then q₁ else q₂) R := by
  by_cases h : c
  · rw [if_pos h, if_pos (hc.mp h)]
    exact h₁ h
  · rw [if_neg h, if_neg (fun h' => h (hc.mpr h'))]
    exact h₂ h

end Abreast

end SceneScript
