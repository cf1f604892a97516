/-
The shape of encoded data, and codecs whose decoder has structural limits.

Such a decoder refuses data that is nested too deeply or that has an array or a map with too
many entries, whatever the data is for.  `Shape.Within` says which shapes are left, and a
`Codec` is an encoder with such a decoder behind it.
-/
import Mathlib.Tactic.Common

namespace Shapes

/-- The containers in an encoded value. -/
inductive Shape
  | scalar
  | array (items : List Shape)
  | map (values : List Shape)

structure Limits where
  nestedLevels : ℕ
  arrayElements : ℕ
  mapPairs : ℕ
  deriving DecidableEq

mutual

/-- A shape under `depth` containers is within the limits. -/
def Shape.within (limits : Limits) (depth : ℕ) : Shape → Bool
  | .scalar => true
  | .array items => depth + 1 ≤ limits.nestedLevels && items.length ≤ limits.arrayElements
      && withinAll limits (depth + 1) items
  | .map values => depth + 1 ≤ limits.nestedLevels && values.length ≤ limits.mapPairs
      && withinAll limits (depth + 1) values

def withinAll (limits : Limits) (depth : ℕ) : List Shape → Bool
  | [] => true
  | shape :: shapes => shape.within limits depth && withinAll limits depth shapes

end

variable {limits : Limits} {depth : ℕ}

@[simp] theorem within_scalar : Shape.scalar.within limits depth = true := by
  rw [Shape.within]

theorem withinAll_eq_true {shapes : List Shape} :
    withinAll limits depth shapes = true ↔ ∀ shape ∈ shapes, shape.within limits depth = true := by
  induction shapes with
  | nil => simp [withinAll]
  | cons shape shapes ih => simp [withinAll, ih]

theorem within_array {items : List Shape} :
    (Shape.array items).within limits depth = true ↔ depth < limits.nestedLevels
      ∧ items.length ≤ limits.arrayElements
      ∧ ∀ item ∈ items, item.within limits (depth + 1) = true := by
  simp [Shape.within, withinAll_eq_true, Nat.succ_le_iff, and_assoc]

theorem within_map {values : List Shape} :
    (Shape.map values).within limits depth = true ↔ depth < limits.nestedLevels
      ∧ values.length ≤ limits.mapPairs
      ∧ ∀ value ∈ values, value.within limits (depth + 1) = true := by
  simp [Shape.within, withinAll_eq_true, Nat.succ_le_iff, and_assoc]

/-- An array of scalars is within the limits when it is not too long. -/
theorem within_scalars {n : ℕ} : (Shape.array (List.replicate n .scalar)).within limits depth = true
    ↔ depth < limits.nestedLevels ∧ n ≤ limits.arrayElements := by
  rw [within_array, List.length_replicate]
  constructor
  · rintro ⟨hdepth, hn, -⟩
    exact ⟨hdepth, hn⟩
  · rintro ⟨hdepth, hn⟩
    refine ⟨hdepth, hn, fun item hitem => ?_⟩
    rw [List.eq_of_mem_replicate hitem, within_scalar]

/-- An encoder of `α` into `ρ`, and a decoder that reads back exactly the values whose shape is
within the limits. -/
structure Codec (limits : Limits) {α : Type} (shape : α → Shape) (ρ : Type) where
  marshal : α → ρ
  unmarshal : ρ → Option α
  isEmpty : ρ → Bool
  unmarshal_marshal : ∀ a,
    unmarshal (marshal a) = if (shape a).within limits 0 = true then some a else none
  isEmpty_marshal : ∀ a, isEmpty (marshal a) = false

/-- The codec that leaves its values as they are. -/
def Codec.plain (limits : Limits) {α : Type} (shape : α → Shape) : Codec limits shape α where
  marshal a := a
  unmarshal a := if (shape a).within limits 0 = true then some a else none
  isEmpty _ := false
  unmarshal_marshal _ := rfl
  isEmpty_marshal _ := rfl

end Shapes
