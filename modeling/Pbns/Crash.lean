/-
Programs that may lose power.

A program on the state `σ` returns a result, or stops where power was lost; the state
it leaves is part of both outcomes.  `Triple P m Q C` says that from a state in `P`
the program `m` returns in `Q` or stops in the crash condition `C`.
-/
import Mathlib.Logic.Basic

namespace Crash

/-- A program: the result is `none` when power was lost. -/
def Prog (σ α : Type) : Type := σ → Option α × σ

section Prog

variable {σ α β : Type}

instance : Monad (Prog σ) where
  pure a := fun s => (some a, s)
  bind m f := fun s =>
    match m s with
    | (some a, s) => f a s
    | (none, s) => (none, s)

theorem pure_apply (a : α) (s : σ) : (pure a : Prog σ α) s = (some a, s) := rfl

theorem bind_apply (m : Prog σ α) (f : α → Prog σ β) (s : σ) :
    (m >>= f) s = match m s with
      | (some a, s) => f a s
      | (none, s) => (none, s) := rfl

/-- Runs if there is a value to run on; the result is dropped. -/
def Prog.attempt (f : α → Prog σ β) : Option α → Prog σ Unit
  | none => pure ()
  | some a => do
    let _ ← f a
    return ()

end Prog

/-- The crash triple. -/
def Triple {σ α : Type} (P : σ → Prop) (m : Prog σ α) (Q : α → σ → Prop) (C : σ → Prop) : Prop :=
  ∀ s, P s → (∀ a s', m s = (some a, s') → Q a s') ∧ ∀ s', m s = (none, s') → C s'

namespace Triple

variable {σ α β : Type} {P P' : σ → Prop} {Q Q' : α → σ → Prop} {C C' : σ → Prop} {m : Prog σ α}

theorem pure {a : α} (h : ∀ s, P s → Q a s) : Triple P (pure a) Q C := by
  intro s hs
  refine ⟨?_, ?_⟩
  · intro a' s' heq
    rw [pure_apply, Prod.mk.injEq, Option.some.injEq] at heq
    obtain ⟨rfl, rfl⟩ := heq
    exact h s hs
  · intro s' heq
    exact absurd (congrArg Prod.fst heq) (by simp [pure_apply])

theorem bind {f : α → Prog σ β} {R : β → σ → Prop} (h : Triple P m Q C)
    (hf : ∀ a, Triple (Q a) (f a) R C) : Triple P (m >>= f) R C := by
  intro s hs
  obtain ⟨hret, hcrash⟩ := h s hs
  rw [bind_apply]
  rcases heq : m s with ⟨_ | a, s₁⟩
  · refine ⟨?_, ?_⟩
    · intro b s' h'
      cases h'
    · intro s' h'
      obtain rfl := congrArg Prod.snd h'
      exact hcrash s₁ heq
  · exact hf a s₁ (hret a s₁ heq)

theorem conseq (h : Triple P m Q C) (hP : ∀ s, P' s → P s) (hQ : ∀ a s, Q a s → Q' a s)
    (hC : ∀ s, C s → C' s) : Triple P' m Q' C' := by
  intro s hs
  obtain ⟨hret, hcrash⟩ := h s (hP s hs)
  exact ⟨fun a s' heq => hQ a s' (hret a s' heq), fun s' heq => hC s' (hcrash s' heq)⟩

theorem ite {c : Prop} [Decidable c] {m' : Prog σ α} (h : c → Triple P m Q C)
    (h' : ¬ c → Triple P m' Q C) : Triple P (if c then m else m') Q C := by
  split
  · exact h ‹_›
  · exact h' ‹_›

theorem attempt {f : α → Prog σ β} {x : Option α} (h : ∀ a ∈ x, Triple P (f a) (fun _ => P) P) :
    Triple P (Prog.attempt f x) (fun _ => P) P := by
  cases x with
  | none => exact Triple.pure (fun _ hs => hs)
  | some a => exact Triple.bind (h a rfl) (fun _ => Triple.pure (fun _ hs => hs))

/-- A fact about the state at hand may be used in the rest of the program. -/
theorem assume {φ : Prop} (hφ : ∀ s, P s → φ) (h : φ → Triple P m Q C) : Triple P m Q C := by
  intro s hs
  exact h (hφ s hs) s hs

/-- The state at hand may be named. -/
theorem named (h : ∀ s₀, P s₀ → Triple (· = s₀) m Q C) : Triple P m Q C := by
  intro s hs
  exact h s hs s rfl

end Triple

end Crash
