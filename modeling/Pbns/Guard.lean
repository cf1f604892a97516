/-
Guarded computations: the "test, return an error, go on" shape of imperative
code, as `Except` actions with the inversion rules proofs about such code use.
-/
import Mathlib.Logic.Basic

instance exceptDecidableEq {ε α : Type*} [DecidableEq ε] [DecidableEq α] : DecidableEq (Except ε α)
  | .ok a, .ok b => decidable_of_iff (a = b) (by simp)
  | .error e, .error e' => decidable_of_iff (e = e') (by simp)
  | .ok _, .error _ | .error _, .ok _ => isFalse (by simp)

namespace Guard

variable {ε α β : Type}

/-- `if (c) return e;` -/
def rejectIf (c : Prop) [Decidable c] (e : ε) : Except ε Unit :=
  if c then .error e else .ok ()

section Reject

variable {c : Prop} [Decidable c] {e : ε} {rest : Unit → Except ε α}

theorem rejectIf_bind_of_not (hc : ¬ c) : (rejectIf c e >>= rest) = rest () := by
  rw [rejectIf, if_neg hc]
  rfl

theorem rejectIf_bind_of_pos (hc : c) : (rejectIf c e >>= rest) = .error e := by
  rw [rejectIf, if_pos hc]
  rfl

/-- Code behind a guard succeeds exactly when the guard lets it through. -/
@[simp] theorem rejectIf_bind_eq_ok {a : α} :
    (rejectIf c e >>= rest) = .ok a ↔ ¬ c ∧ rest () = .ok a := by
  by_cases hc : c
  · rw [rejectIf_bind_of_pos hc]
    simp [hc]
  · rw [rejectIf_bind_of_not hc]
    simp [hc]

@[simp] theorem rejectIf_eq_ok {u : Unit} : rejectIf c e = .ok u ↔ ¬ c := by
  by_cases hc : c <;> simp [rejectIf, hc]

theorem rejectIf_eq_error {e' : ε} : rejectIf c e = .error e' ↔ c ∧ e = e' := by
  by_cases hc : c <;> simp [rejectIf, hc]

end Reject

@[simp] theorem bind_ok (a : α) (rest : α → Except ε β) : (Except.ok a >>= rest) = rest a := rfl

theorem bind_of_ok {first : Except ε α} {a : α} (h : first = .ok a) (rest : α → Except ε β) :
    (first >>= rest) = rest a := by
  rw [h, bind_ok]

@[simp] theorem bind_error (e : ε) (rest : α → Except ε β) :
    ((Except.error e : Except ε α) >>= rest) = .error e := rfl

theorem bind_eq_ok {first : Except ε α} {rest : α → Except ε β} {b : β} :
    (first >>= rest) = .ok b ↔ ∃ a, first = .ok a ∧ rest a = .ok b := by
  rcases first with e | a <;> simp

theorem bind_eq_error {first : Except ε α} {rest : α → Except ε β} {e : ε} :
    (first >>= rest) = .error e ↔ first = .error e ∨ ∃ a, first = .ok a ∧ rest a = .error e := by
  rcases first with e' | a <;> simp

/-- A missing value is an error. -/
def orReject (e : ε) : Option α → Except ε α
  | some a => .ok a
  | none => .error e

@[simp] theorem orReject_eq_ok {o : Option α} {e : ε} {a : α} : orReject e o = .ok a ↔ o = some a := by
  cases o <;> simp [orReject]

theorem orReject_eq_error {o : Option α} {e e' : ε} (h : orReject e o = .error e') : e = e' := by
  cases o with
  | none => exact Except.error.inj h
  | some a => exact absurd h (by simp [orReject])

/-- What the computation returns is in `P`. -/
def Returns (P : α → Prop) (x : Except ε α) : Prop := ∀ a, x = .ok a → P a

theorem Returns.bind {P : β → Prop} {first : Except ε α} {rest : α → Except ε β}
    (h : ∀ a, Returns P (rest a)) : Returns P (first >>= rest) := by
  intro b hb
  obtain ⟨a, -, hrest⟩ := bind_eq_ok.mp hb
  exact h a b hrest

/-- The computation fails only with errors in `P`. -/
def FailsOnly (P : ε → Prop) (x : Except ε α) : Prop := ∀ e, x = .error e → P e

section FailsOnly

variable {P : ε → Prop}

theorem FailsOnly.ok (a : α) : FailsOnly P (.ok a) := fun _ h => absurd h (by simp)

theorem FailsOnly.bind {first : Except ε α} {rest : α → Except ε β} (h : FailsOnly P first)
    (hrest : ∀ a, FailsOnly P (rest a)) : FailsOnly P (first >>= rest) := by
  intro e he
  rcases bind_eq_error.mp he with he | ⟨a, -, he⟩
  · exact h e he
  · exact hrest a e he

theorem FailsOnly.rejectIf {c : Prop} [Decidable c] {e : ε} (h : P e) :
    FailsOnly P (rejectIf c e) := by
  intro e' he
  obtain ⟨-, rfl⟩ := rejectIf_eq_error.mp he
  exact h

theorem FailsOnly.orReject {e : ε} (h : P e) (o : Option α) : FailsOnly P (orReject e o) := by
  intro e' he
  obtain rfl := orReject_eq_error he
  exact h

end FailsOnly

end Guard
