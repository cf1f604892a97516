/-
Consistent overhead byte stuffing, as a code on block lists.

A stuffed string is a list of *blocks*, each at most 254 non-zero octets long and
preceded on the wire by one code octet, its length plus one.  Two readings of a
block list give the code:

* `wire` — the stuffed string itself, free of zeros (`zero_notMem_wire`);
* `join` — the string it stands for: a zero between consecutive blocks, except
  after a full block of 254.

`blocks` cuts a string into blocks greedily.  It is a right inverse of `join`
(`join_blocks`) and all but a left inverse of it: a block list comes back as
itself unless its last block is full, and then an empty block is added at the end
(`blocks_join`).  `parse` reads a block list off the wire (`parse_eq_some`), so a
stuffed string determines its blocks.
-/
import Pbns.Bytes
import Mathlib.Data.List.Flatten

namespace Cobs

/-- At most 254 octets, none of them zero. -/
def IsBlock (b : Octets) : Prop := b.length ≤ 254 ∧ 0#8 ∉ b

/-- A block behind its code octet. -/
def blockWire (b : Octets) : Octets := BitVec.ofNat 8 (b.length + 1) :: b

/-- The stuffed string of a block list. -/
def wire (bs : List Octets) : Octets := bs.flatMap blockWire

/-- The string a block list stands for. -/
def join : List Octets → Octets
  | [] => []
  | b :: bs => b ++ (if b.length = 254 ∨ bs = [] then [] else [0#8]) ++ join bs

/-- Cut a string into blocks, `cur` being the block under construction. -/
def blocksFrom (cur : Octets) : Octets → List Octets
  | [] => [cur]
  | x :: xs =>
    if x = 0#8 then cur :: blocksFrom [] xs
    else if cur.length = 253 then (cur ++ [x]) :: blocksFrom [] xs
    else blocksFrom (cur ++ [x]) xs

def blocks (s : Octets) : List Octets := blocksFrom [] s

/-- The stuffed form of a string. -/
def encode (s : Octets) : Octets := wire (blocks s)

@[simp] theorem wire_nil : wire [] = [] := rfl

@[simp] theorem wire_cons (b : Octets) (bs : List Octets) :
    wire (b :: bs) = BitVec.ofNat 8 (b.length + 1) :: (b ++ wire bs) := by
  simp [wire, blockWire]

theorem wire_append (bs cs : List Octets) : wire (bs ++ cs) = wire bs ++ wire cs := by
  simp [wire]

variable {b cur s : Octets}

/-- The code octet of a block is non-zero and gives the length back. -/
theorem toNat_code (h : b.length ≤ 254) :
    (BitVec.ofNat 8 (b.length + 1)).toNat = b.length + 1 := by
  rw [BitVec.toNat_ofNat, Nat.mod_eq_of_lt (by omega)]

theorem code_ne_zero (h : b.length ≤ 254) :
    BitVec.ofNat 8 (b.length + 1) ≠ 0#8 := by
  intro hc
  have := congrArg BitVec.toNat hc
  rw [toNat_code h] at this
  simp at this

/-- **A stuffed string has no zero.** -/
theorem zero_notMem_wire {bs : List Octets} (h : ∀ b ∈ bs, IsBlock b) :
    0#8 ∉ wire bs := by
  induction bs with
  | nil => simp
  | cons b bs ih =>
    have hb := h b List.mem_cons_self
    rw [wire_cons, List.mem_cons, List.mem_append, not_or, not_or]
    exact ⟨(code_ne_zero hb.1).symm, hb.2, ih fun c hc => h c (List.mem_cons_of_mem b hc)⟩

/-! ### Cutting into blocks -/

theorem length_join_le (bs : List Octets) : (join bs).length ≤ (wire bs).length := by
  induction bs with
  | nil => simp [join]
  | cons b bs ih =>
    rw [join, wire_cons]
    split_ifs <;> simp <;> omega

theorem blocksFrom_ne_nil (cur s : Octets) : blocksFrom cur s ≠ [] := by
  fun_induction blocksFrom cur s <;> simp_all

theorem isBlock_of_mem_blocksFrom (hlen : cur.length ≤ 253) (hcur : 0#8 ∉ cur) :
    ∀ b ∈ blocksFrom cur s, IsBlock b := by
  fun_induction blocksFrom cur s with
  | case1 cur => exact List.forall_mem_singleton.mpr ⟨by omega, hcur⟩
  | case2 cur xs ih => 
    exact List.forall_mem_cons.mpr ⟨⟨by omega, hcur⟩, ih (by simp) (by simp)⟩
  | case3 cur x xs hx h253 ih =>
    refine List.forall_mem_cons.mpr ⟨⟨by simp; omega, ?_⟩, ih (by simp) (by simp)⟩
    simp [hcur, Ne.symm hx]
  | case4 cur x xs hx h253 ih => exact ih (by simp; omega) (by simp [hcur, Ne.symm hx])

theorem isBlock_of_mem_blocks (h : b ∈ blocks s) : IsBlock b :=
  isBlock_of_mem_blocksFrom (by simp) (by simp) b h

theorem zero_notMem_encode (s : Octets) : 0#8 ∉ encode s :=
  zero_notMem_wire fun _ => isBlock_of_mem_blocks

theorem join_blocksFrom (hlen : cur.length ≤ 253) :
    join (blocksFrom cur s) = cur ++ s := by
  fun_induction blocksFrom cur s with
  | case1 cur => simp [join]
  | case2 cur xs ih =>
    have h : ¬ (cur.length = 254 ∨ blocksFrom [] xs = []) := by
      simp [blocksFrom_ne_nil]
      omega
    rw [join, if_neg h, ih (by simp)]
    simp
  | case3 cur x xs hx h253 ih =>
    rw [join, if_pos (Or.inl (by simp [h253])), ih (by simp)]
    simp
  | case4 cur x xs hx h253 ih =>
    rw [ih (by simp; omega)]
    simp

/-- **Stuffing loses nothing.** -/
theorem join_blocks (s : Octets) : join (blocks s) = s := by
  rw [blocks, join_blocksFrom (by simp), List.nil_append]

theorem length_wire_blocksFrom (cur s : Octets) (hlen : cur.length ≤ 253) :
    (wire (blocksFrom cur s)).length
      ≤ cur.length + s.length + (cur.length + s.length) / 254 + 1 := by
  fun_induction blocksFrom cur s with
  | case1 cur => simp
  | case2 cur xs ih | case3 cur x xs hx h253 ih =>
    have := ih (by simp)
    simp only [wire_cons, List.length_cons, List.length_append, List.length_nil] at this ⊢
    omega
  | case4 cur x xs hx h253 ih =>
    have := ih (by simp; omega)
    simp only [List.length_cons, List.length_append, List.length_nil] at this ⊢
    omega

theorem le_length_wire_blocksFrom (cur s : Octets) :
    1 + cur.length ≤ (wire (blocksFrom cur s)).length := by
  fun_induction blocksFrom cur s <;> simp_all <;> omega

/-- The overhead of stuffing `n` octets is at most `n / 254 + 1`. -/
theorem length_encode_le (s : Octets) : (encode s).length ≤ s.length + s.length / 254 + 1 := by
  have := length_wire_blocksFrom [] s (by simp)
  simpa [encode, blocks] using this

theorem length_encode_pos (s : Octets) : 0 < (encode s).length := by
  rcases h : blocks s with _ | ⟨b, bs⟩
  · exact absurd h (blocksFrom_ne_nil [] s)
  · simp [encode, h]

/-- A run of non-zero octets that does not fill the block is swallowed whole. -/
theorem blocksFrom_append (hb : 0#8 ∉ b) (hlen : cur.length + b.length ≤ 253) (rest : Octets) :
    blocksFrom cur (b ++ rest) = blocksFrom (cur ++ b) rest := by
  induction b generalizing cur with
  | nil => simp
  | cons x b ih =>
    rw [List.mem_cons, not_or] at hb
    rw [List.length_cons] at hlen
    rw [List.cons_append, blocksFrom, if_neg (Ne.symm hb.1), if_neg (by omega),
      ih hb.2 (by simp; omega)]
    simp

/-- A run of exactly 254 non-zero octets closes its block by itself. -/
theorem blocksFrom_full (hb : 0#8 ∉ b) (hlen : b.length = 254) (rest : Octets) : blocksFrom [] (b ++ rest) = b :: blocksFrom [] rest := by
  obtain ⟨a, x, rfl⟩ : ∃ a x, b = a ++ [x] := by
    rcases List.eq_nil_or_concat b with rfl | ⟨a, x, rfl⟩
    · simp at hlen
    · exact ⟨a, x, by simp⟩
  simp only [List.length_append, List.length_singleton] at hlen
  simp only [List.mem_append, List.mem_singleton, not_or] at hb
  rw [List.append_assoc, blocksFrom_append hb.1 (by simp; omega), List.nil_append,
    List.singleton_append, blocksFrom, if_neg (Ne.symm hb.2), if_pos (by omega)]

/-- **The one redundancy of the code.**  Cutting the string of a block list gives
the list back, with an empty block added exactly when the last one is full. -/
theorem blocks_join {bs : List Octets} (hne : bs ≠ []) (h : ∀ b ∈ bs, IsBlock b) :
    blocks (join bs) = if (bs.getLast hne).length = 254 then bs ++ [[]] else bs := by
  induction bs with
  | nil => exact absurd rfl hne
  | cons b bs ih =>
    have hb := h b List.mem_cons_self
    by_cases hbs : bs = []
    · subst hbs
      simp only [join, or_true, if_true, List.append_nil]
      by_cases hfull : b.length = 254
      · have := blocksFrom_full hb.2 hfull []
        rw [List.append_nil] at this
        rw [if_pos (show ([b].getLast hne).length = 254 from hfull), blocks, this]
        rfl
      · have : blocksFrom [] (b ++ []) = blocksFrom ([] ++ b) [] :=
          blocksFrom_append hb.2 (by have := hb.1; simp; omega) []
        rw [List.append_nil, List.nil_append] at this
        rw [if_neg (show ¬ ([b].getLast hne).length = 254 from hfull), blocks, this, blocksFrom]
    · have ih' := ih hbs fun c hc => h c (List.mem_cons_of_mem b hc)
      rw [List.getLast_cons hbs]
      -- the first block is peeled off, with or without the zero that closes it
      have hstep : blocks (join (b :: bs)) = b :: blocks (join bs) := by
        by_cases hfull : b.length = 254
        · rw [join, if_pos (Or.inl hfull), List.append_nil, blocks, blocksFrom_full hb.2 hfull]
          rfl
        · have hcond : ¬ (b.length = 254 ∨ bs = []) := by simp [hfull, hbs]
          rw [join, if_neg hcond, List.append_assoc, blocks,
            blocksFrom_append hb.2 (by have := hb.1; simp; omega), List.nil_append,
            List.singleton_append, blocksFrom, if_pos rfl]
          rfl
      rw [hstep, ih']
      split <;> simp

/-! ### Reading blocks off the wire -/

/-- Split a stuffed string into its blocks; `fuel` bounds their number. -/
def parse : ℕ → Octets → Option (List Octets)
  | _, [] => some []
  | 0, _ :: _ => none
  | fuel + 1, c :: s =>
    if c = 0#8 then none
    else if s.length < c.toNat - 1 then none
    else if 0#8 ∈ s.take (c.toNat - 1) then none
    else (parse fuel (s.drop (c.toNat - 1))).map (s.take (c.toNat - 1) :: ·)

/-- `parse` inverts `wire`: a stuffed string determines its blocks. -/
theorem parse_eq_some {fuel : ℕ} {s : Octets} {bs : List Octets} (hs : s.length ≤ fuel) :
    parse fuel s = some bs ↔ wire bs = s ∧ ∀ b ∈ bs, IsBlock b := by
  induction fuel generalizing s bs with
  | zero =>
    obtain rfl : s = [] := List.length_eq_zero_iff.mp (by omega)
    cases bs <;> simp [parse]
  | succ fuel ih =>
    rcases s with _ | ⟨c, s⟩
    · cases bs <;> simp [parse]
    · rw [List.length_cons] at hs
      constructor
      · intro h
        rw [parse] at h
        split_ifs at h with hc hlen hz
        obtain ⟨cs, hcs, rfl⟩ := Option.map_eq_some_iff.mp h
        obtain ⟨hw, hall⟩ := (ih (by rw [List.length_drop]; omega)).mp hcs
        have hlt := c.isLt
        have hpos : c.toNat ≠ 0 := fun h0 => hc (BitVec.eq_of_toNat_eq (by simpa using h0))
        have htake : (s.take (c.toNat - 1)).length = c.toNat - 1 := List.length_take_of_le (by omega)
        refine ⟨?_, List.forall_mem_cons.mpr ⟨⟨by omega, hz⟩, hall⟩⟩
        rw [wire_cons, htake, hw, List.take_append_drop, Nat.sub_add_cancel (by omega),
          BitVec.ofNat_toNat, BitVec.setWidth_eq]
      · rintro ⟨hw, hall⟩
        rcases bs with _ | ⟨b, bs⟩
        · simp at hw
        · obtain ⟨hb, hbs⟩ := List.forall_mem_cons.mp hall
          rw [wire_cons, List.cons.injEq] at hw
          obtain ⟨rfl, rfl⟩ := hw
          rw [List.length_append] at hs
          rw [parse, if_neg (code_ne_zero hb.1), toNat_code hb.1, Nat.add_sub_cancel,
            if_neg (by simp), List.take_left, if_neg hb.2, List.drop_left,
            (ih (by omega)).mpr ⟨rfl, hbs⟩]
          rfl

end Cobs
