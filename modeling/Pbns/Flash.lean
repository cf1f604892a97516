/-
NOR flash.

Erasing a range sets it to ones; programming only clears bits.  A program cut short has
reached some of the bits it was to clear and not the others, so programming is a
relation, `Memory.Programmed`: every bit is as it was or at its target.

* `Erased.read`, `Programmed.read` — what the range reads as afterwards;
* `SameOutside.read` — reads elsewhere are not affected.
-/
import Pbns.Bytes

namespace Flash

open Octets

/-- The octet at each address. -/
abbrev Memory := ℕ → Octet

/-- `page` is what an erased page may read as once it was, perhaps partly, programmed
with `target`: its bits are ones still or at their targets. -/
def Partly (target page : Octets) : Prop :=
  page.length = target.length ∧
    ∀ i < target.length, ∃ unreached, octetAt page i = octetAt target i ||| unreached

namespace Memory

@[irreducible] def read (m : Memory) (offset size : ℕ) : Octets := (List.range size).map fun i => m (offset + i)

/-- No address out of the range has changed. -/
def SameOutside (m : Memory) (offset size : ℕ) (m' : Memory) : Prop :=
  ∀ a, a < offset ∨ offset + size ≤ a → m' a = m a

def Erased (m : Memory) (offset size : ℕ) (m' : Memory) : Prop :=
  m.SameOutside offset size m' ∧ ∀ i < size, m' (offset + i) = 0xff#8

def Programmed (m : Memory) (offset : ℕ) (source : Octets) (m' : Memory) : Prop :=
  m.SameOutside offset source.length m' ∧ ∀ i < source.length, ∃ unreached,
    m' (offset + i) = m (offset + i) &&& (octetAt source i ||| unreached)

section

variable {m m' : Memory} {offset size : ℕ}

@[simp] theorem length_read (m : Memory) (offset size : ℕ) : (m.read offset size).length = size := by
  simp [read]

theorem octetAt_read {i : ℕ} (h : i < size) : octetAt (m.read offset size) i = m (offset + i) := by
  simp [octetAt, read, h]

theorem read_congr (h : ∀ i < size, m' (offset + i) = m (offset + i)) :
    m'.read offset size = m.read offset size := by
  rw [read, read]
  refine List.map_congr_left ?_
  intro i hi
  exact h i (List.mem_range.mp hi)

/-- Two changes, the second in a part of the range. -/
theorem SameOutside.trans (h : m.SameOutside offset size m') {m'' : Memory} {offset' size' : ℕ}
    (h' : m'.SameOutside offset' size' m'') (hle : offset ≤ offset')
    (hin : offset' + size' ≤ offset + size) : m.SameOutside offset size m'' := by
  intro a ha
  rw [h' a (by omega), h a ha]

/-- A read of another range. -/
theorem SameOutside.read (h : m.SameOutside offset size m') {offset' size' : ℕ}
    (hout : offset' + size' ≤ offset ∨ offset + size ≤ offset') :
    m'.read offset' size' = m.read offset' size' := by
  refine read_congr ?_
  intro i hi
  exact h _ (by omega)

/-- An erased range reads as ones. -/
theorem Erased.read (h : m.Erased offset size m') {offset' size' : ℕ} (hle : offset ≤ offset')
    (hin : offset' + size' ≤ offset + size) :
    m'.read offset' size' = List.replicate size' 0xff#8 := by
  refine List.eq_replicate_iff.mpr ⟨length_read _ _ _, ?_⟩
  intro b hb
  rw [Memory.read] at hb
  obtain ⟨i, hi, rfl⟩ := List.mem_map.mp hb
  have hi' := List.mem_range.mp hi
  have haddr : offset' + i = offset + (offset' - offset + i) := by omega
  rw [haddr]
  exact h.2 _ (by omega)

/-- An erased page, programmed. -/
theorem Programmed.read {source : Octets} (h : m.Programmed offset source m')
    (herased : m.read offset source.length = List.replicate source.length 0xff#8) :
    Partly source (m'.read offset source.length) := by
  refine ⟨length_read _ _ _, ?_⟩
  intro i hi
  obtain ⟨unreached, hval⟩ := h.2 i hi
  have hone : m (offset + i) = 0xff#8 := by
    rw [← octetAt_read (m := m) hi, herased, octetAt_replicate _ hi]
  refine ⟨unreached, ?_⟩
  rw [octetAt_read hi, hval, hone]
  exact BitVec.allOnes_and

end

end Memory

end Flash
