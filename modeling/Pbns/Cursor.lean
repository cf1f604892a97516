/-
Parsers that move a cursor through a fixed input.

A parser gets the whole input and the offset it starts at, and either fails or returns a
value and the offset it stops at.  The one notion here is `Local`: a parser that succeeds has
looked at nothing behind the place where it stops, so it does the same on every other input
that agrees that far.  `Local` holds of the steps (`local_take`, `local_require`,
`local_ofOption`) and is kept by sequencing (`Local.bind`).
-/
import Mathlib.Data.List.Basic
import Mathlib.Order.Lattice.Nat
import Mathlib.Tactic.Common

namespace Cursor

/-- A parser over a list of `β`, from an offset on. -/
def Parser (β α : Type) : Type := List β → ℕ → Option (α × ℕ)

variable {β α γ : Type}

instance : Monad (Parser β) where
  pure a := fun _ offset => some (a, offset)
  bind p f := fun input offset => (p input offset).bind fun r => f r.1 input r.2

/-- The next `length` items. -/
def take (length : ℕ) : Parser β (List β) := fun input offset =>
  if input.length < length ∨ input.length - length < offset then none
  else some ((input.drop offset).take length, offset + length)

/-- `if (!c) return false;` -/
def require (c : Prop) [Decidable c] : Parser β Unit := fun _ offset =>
  if c then some ((), offset) else none

def ofOption (value : Option α) : Parser β α := fun _ offset => value.map fun a => (a, offset)

section Steps

variable {input : List β} {offset stop : ℕ}

theorem pure_eq_some {a b : α} :
    (pure a : Parser β α) input offset = some (b, stop) ↔ a = b ∧ offset = stop := by
  show some (a, offset) = some (b, stop) ↔ _
  simp

theorem bind_eq_some {p : Parser β α} {f : α → Parser β γ} {c : γ} :
    (p >>= f) input offset = some (c, stop)
      ↔ ∃ a next, p input offset = some (a, next) ∧ f a input next = some (c, stop) := by
  show (p input offset).bind _ = _ ↔ _
  rw [Option.bind_eq_some_iff]
  constructor
  · rintro ⟨⟨a, next⟩, hp, hf⟩
    exact ⟨a, next, hp, hf⟩
  · rintro ⟨a, next, hp, hf⟩
    exact ⟨(a, next), hp, hf⟩

theorem take_eq_some {length : ℕ} {items : List β} :
    take length input offset = some (items, stop)
      ↔ offset + length ≤ input.length ∧ items = (input.drop offset).take length
        ∧ stop = offset + length := by
  rw [take]
  split
  · constructor
    · intro h
      simp at h
    · intro h
      omega
  · constructor
    · intro h
      obtain ⟨rfl, rfl⟩ := Prod.mk.inj (Option.some.inj h)
      exact ⟨by omega, rfl, rfl⟩
    · rintro ⟨-, rfl, rfl⟩
      rfl

theorem require_eq_some {c : Prop} [Decidable c] {u : Unit} :
    (require c : Parser β Unit) input offset = some (u, stop) ↔ c ∧ offset = stop := by
  by_cases hc : c <;> simp [require, hc]

theorem ofOption_eq_some {value : Option α} {a : α} :
    (ofOption value : Parser β α) input offset = some (a, stop)
      ↔ value = some a ∧ offset = stop := by
  cases value <;> simp [ofOption]

end Steps

/-- A parser that looks at nothing behind the place where it stops. -/
structure Local (p : Parser β α) : Prop where
  forward {input : List β} {offset stop : ℕ} {a : α} :
    p input offset = some (a, stop) → offset ≤ stop
  within {input : List β} {offset stop : ℕ} {a : α} :
    p input offset = some (a, stop) → offset ≤ input.length → stop ≤ input.length
  agree {input input' : List β} {offset stop : ℕ} {a : α} :
    p input offset = some (a, stop) → stop ≤ input'.length →
      input'.take stop = input.take stop → p input' offset = some (a, stop)

/-- Two inputs that agree up to an offset agree up to every smaller one. -/
theorem take_agree {input input' : List β} {n m : ℕ} (hle : n ≤ m)
    (h : input'.take m = input.take m) : input'.take n = input.take n := by
  have htake := congrArg (List.take n) h
  rwa [List.take_take, List.take_take, Nat.min_eq_left hle] at htake

theorem local_pure (a : α) : Local (pure a : Parser β α) where
  forward h := (pure_eq_some.mp h).2.le
  within h hle := (pure_eq_some.mp h).2 ▸ hle
  agree h _ _ := pure_eq_some.mpr (pure_eq_some.mp h)

theorem Local.bind {p : Parser β α} {f : α → Parser β γ} (hp : Local p)
    (hf : ∀ a, Local (f a)) : Local (p >>= f) where
  forward h := by
    obtain ⟨a, next, hfirst, hrest⟩ := bind_eq_some.mp h
    exact (hp.forward hfirst).trans ((hf a).forward hrest)
  within h hle := by
    obtain ⟨a, next, hfirst, hrest⟩ := bind_eq_some.mp h
    exact (hf a).within hrest (hp.within hfirst hle)
  agree h hlen heq := by
    obtain ⟨a, next, hfirst, hrest⟩ := bind_eq_some.mp h
    have hnext := (hf a).forward hrest
    exact bind_eq_some.mpr ⟨a, next,
      hp.agree hfirst (hnext.trans hlen) (take_agree hnext heq), (hf a).agree hrest hlen heq⟩

theorem local_take (length : ℕ) : Local (take length : Parser β (List β)) where
  forward h := by
    obtain ⟨-, -, rfl⟩ := take_eq_some.mp h
    exact Nat.le_add_right _ _
  within h _ := by
    obtain ⟨hle, -, rfl⟩ := take_eq_some.mp h
    exact hle
  agree {input input' offset stop a} h hlen heq := by
    obtain ⟨-, rfl, rfl⟩ := take_eq_some.mp h
    refine take_eq_some.mpr ⟨hlen, ?_, rfl⟩
    -- both sides are what is left of the common front
    have hfront (l : List β) : (l.drop offset).take length
        = (l.take (offset + length)).drop offset := by
      rw [List.drop_take, Nat.add_sub_cancel_left]
    rw [hfront, hfront, heq]

theorem local_require (c : Prop) [Decidable c] : Local (require c : Parser β Unit) where
  forward h := (require_eq_some.mp h).2.le
  within h hle := (require_eq_some.mp h).2 ▸ hle
  agree h _ _ := require_eq_some.mpr (require_eq_some.mp h)

theorem local_ofOption (value : Option α) : Local (ofOption value : Parser β α) where
  forward h := (ofOption_eq_some.mp h).2.le
  within h hle := (ofOption_eq_some.mp h).2 ▸ hle
  agree h _ _ := ofOption_eq_some.mpr (ofOption_eq_some.mp h)

end Cursor
