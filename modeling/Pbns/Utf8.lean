/-
UTF-8 by its definition: the encodings of Unicode scalar values, one after the other.
-/
import Pbns.Bytes

namespace Utf8

/-- The code points but for the surrogates. -/
def Scalar (n : ℕ) : Prop := n < 0xd800 ∨ 0xe000 ≤ n ∧ n < 0x110000

/-- The encoding of a code point in one to four octets. -/
def encode (n : ℕ) : Octets :=
  if n < 0x80 then [BitVec.ofNat 8 n]
  else if n < 0x800 then [BitVec.ofNat 8 (0xc0 + n / 0x40), BitVec.ofNat 8 (0x80 + n % 0x40)]
  else if n < 0x10000 then
    [BitVec.ofNat 8 (0xe0 + n / 0x1000), BitVec.ofNat 8 (0x80 + n / 0x40 % 0x40),
      BitVec.ofNat 8 (0x80 + n % 0x40)]
  else
    [BitVec.ofNat 8 (0xf0 + n / 0x40000), BitVec.ofNat 8 (0x80 + n / 0x1000 % 0x40),
      BitVec.ofNat 8 (0x80 + n / 0x40 % 0x40), BitVec.ofNat 8 (0x80 + n % 0x40)]

def WellFormed (s : Octets) : Prop :=
  ∃ scalars : List ℕ, (∀ n ∈ scalars, Scalar n) ∧ s = scalars.flatMap encode

theorem WellFormed.nil : WellFormed [] := ⟨[], by simp, rfl⟩

theorem WellFormed.append {n : ℕ} {s t : Octets} (hn : Scalar n) (ht : encode n = t)
    (h : WellFormed s) : WellFormed (t ++ s) := by
  obtain ⟨scalars, hscalars, rfl⟩ := h
  exact ⟨n :: scalars, by simpa [hn] using hscalars, by rw [List.flatMap_cons, ht]⟩

/-- ASCII is well formed. -/
theorem WellFormed.of_ascii {s : Octets} (h : ∀ o ∈ s, o.toNat < 0x80) : WellFormed s := by
  induction s with
  | nil => exact .nil
  | cons o s ih =>
    have ho := h o List.mem_cons_self
    refine .append (.inl (Nat.lt_trans ho (by decide))) (t := [o]) ?_
      (ih fun x hx => h x (List.mem_cons_of_mem _ hx))
    rw [encode, if_pos ho, BitVec.ofNat_toNat, BitVec.setWidth_eq]

theorem length_encode_le (n : ℕ) : (encode n).length ≤ 4 := by
  rw [encode]
  split_ifs <;> simp

/-- A well-formed text is well formed up to any place in it, but for at most three octets. -/
theorem WellFormed.take {s : Octets} (h : WellFormed s) {n : ℕ} (hn : n ≤ s.length) :
    ∃ k, k ≤ 3 ∧ k ≤ n ∧ WellFormed (s.take (n - k)) := by
  obtain ⟨scalars, hscalars, rfl⟩ := h
  induction scalars generalizing n with
  | nil =>
    obtain rfl : n = 0 := Nat.le_zero.mp hn
    exact ⟨0, by decide, Nat.le_refl _, .nil⟩
  | cons a scalars ih =>
    rw [List.flatMap_cons, List.length_append] at hn
    by_cases hcut : n < (encode a).length
    · -- the place is inside the first character, which goes whole
      have := length_encode_le a
      exact ⟨n, by omega, Nat.le_refl _, by simpa using WellFormed.nil⟩
    · obtain ⟨k, hk, hkn, hfront⟩ := ih (n := n - (encode a).length)
        (fun m hm => hscalars m (List.mem_cons_of_mem _ hm)) (by omega)
      refine ⟨k, hk, by omega, ?_⟩
      rw [List.flatMap_cons, List.take_append, List.take_of_length_le (by omega),
        show n - k - (encode a).length = n - (encode a).length - k by omega]
      exact hfront.append (hscalars a List.mem_cons_self) rfl

/-- An octet is determined by its value. -/
theorem octet_eq {x : Octet} {n : ℕ} (h : n = x.toNat) : BitVec.ofNat 8 n = x := by
  rw [h, BitVec.ofNat_toNat, BitVec.setWidth_eq]

theorem toNat_octet {n : ℕ} (h : n < 256) : (BitVec.ofNat 8 n).toNat = n := by
  rw [BitVec.toNat_ofNat, Nat.mod_eq_of_lt h]

end Utf8
