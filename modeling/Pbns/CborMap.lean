/-
Reading CBOR that is not in preferred serialization: heads of any length, items skipped over as
they stand, and maps from integers to raw items.

A decoder that keeps the values of a map raw and compares its re-encoding with the input enforces
the order and the spelling of the keys, and nothing inside the values.

* `decodeHead_spelled` — a head is determined by its form, major type and argument;
* `writeMap_perm` — the order in which a map was read does not matter when it is written.
-/
import Pbns.Cbor
import Mathlib.Data.List.Sort

namespace Cbor

open Octets

def majorTag : ℕ := 6
def majorSimple : ℕ := 7

/-! ### Heads of any length -/

/-- Where the argument of a head stands: in the first octet, or in that many octets behind it. -/
inductive HeadForm
  | tiny
  | one
  | two
  | four
  | eight
  deriving DecidableEq

def HeadForm.width : HeadForm → ℕ
  | .tiny => 1
  | .one => 2
  | .two => 3
  | .four => 5
  | .eight => 9

def HeadForm.spell : HeadForm → ℕ → ℕ → Octets
  | .tiny, major, argument => [BitVec.ofNat 8 (major * 32 + argument)]
  | .one, major, argument => [BitVec.ofNat 8 (major * 32 + 24), BitVec.ofNat 8 argument]
  | .two, major, argument =>
    [BitVec.ofNat 8 (major * 32 + 25), BitVec.ofNat 8 (argument / 2 ^ 8), BitVec.ofNat 8 argument]
  | .four, major, argument =>
    BitVec.ofNat 8 (major * 32 + 26) :: writeU32Be (BitVec.ofNat 32 argument)
  | .eight, major, argument =>
    BitVec.ofNat 8 (major * 32 + 27) :: writeU64Be (BitVec.ofNat 64 argument)

theorem HeadForm.spell_length (form : HeadForm) (major argument : ℕ) :
    (form.spell major argument).length = form.width := by
  cases form <;> rfl

theorem HeadForm.width_injective {form form' : HeadForm} (h : form.width = form'.width) :
    form = form' := by
  revert h
  cases form <;> cases form' <;> decide

section Spelled

variable {first : Octet} {major argument : ℕ} {rest : Octets}

theorem first_eq {info : ℕ} (h : first.toNat % 32 = info) :
    BitVec.ofNat 8 (first.toNat / 32 * 32 + info) = first := by
  rw [← h, Nat.div_add_mod', BitVec.ofNat_toNat, BitVec.setWidth_eq]

theorem spell_two (h : first.toNat % 32 = 25) (x y : Octet) :
    HeadForm.two.spell (first.toNat / 32) (x.toNat * 2 ^ 8 + y.toNat) = [first, x, y] := by
  have hxlt := x.isLt
  have hylt := y.isLt
  have hx : BitVec.ofNat 8 ((x.toNat * 2 ^ 8 + y.toNat) / 2 ^ 8) = x := by
    apply BitVec.eq_of_toNat_eq
    rw [BitVec.toNat_ofNat]
    omega
  have hy : BitVec.ofNat 8 (x.toNat * 2 ^ 8 + y.toNat) = y := by
    apply BitVec.eq_of_toNat_eq
    rw [BitVec.toNat_ofNat]
    omega
  rw [HeadForm.spell, first_eq h, hx, hy]

theorem spell_four (h : first.toNat % 32 = 26) {tail : Octets} (hlen : 4 ≤ tail.length) :
    HeadForm.four.spell (first.toNat / 32) (readU32Be tail).toNat ++ tail.drop 4 = first :: tail := by
  have htake : (tail.take 4).length = 4 := by rw [List.length_take]; omega
  have hword : writeU32Be (readU32Be tail) = tail.take 4 := by
    rw [← writeU32Be_readU32Be htake, ← readU32Be_append htake, List.take_append_drop]
  rw [HeadForm.spell, first_eq h, BitVec.ofNat_toNat, BitVec.setWidth_eq, hword, List.cons_append,
    List.take_append_drop]

theorem spell_eight (h : first.toNat % 32 = 27) {tail : Octets} (hlen : 8 ≤ tail.length) :
    HeadForm.eight.spell (first.toNat / 32) (readU64Be tail).toNat ++ tail.drop 8 = first :: tail := by
  have htake : (tail.take 8).length = 8 := by rw [List.length_take]; omega
  have hword : writeU64Be (readU64Be tail) = tail.take 8 := by
    rw [← writeU64Be_readU64Be htake, ← readU64Be_append htake, List.take_append_drop]
  rw [HeadForm.spell, first_eq h, BitVec.ofNat_toNat, BitVec.setWidth_eq, hword, List.cons_append,
    List.take_append_drop]

/-- **What was read as a head is one of its spellings.** -/
theorem decodeHead_spelled {s : Octets} (h : decodeHead s = some (major, argument, rest)) :
    ∃ form : HeadForm, s = form.spell major argument ++ rest := by
  cases s with
  | nil => exact absurd h (by simp [decodeHead])
  | cons first tail =>
    unfold decodeHead at h
    simp only at h
    by_cases hinfo : first.toNat % 32 < 24
    · rw [if_pos hinfo] at h
      cases h
      exact ⟨.tiny, by rw [HeadForm.spell, first_eq rfl]; rfl⟩
    · rw [if_neg hinfo] at h
      split at h
      · next x tail hform =>
        cases h
        refine ⟨.one, ?_⟩
        rw [HeadForm.spell, first_eq hform, BitVec.ofNat_toNat, BitVec.setWidth_eq]
        rfl
      · next x y tail hform =>
        cases h
        refine ⟨.two, ?_⟩
        rw [spell_two hform]
        rfl
      · next tail hform =>
        split_ifs at h with hlen
        cases h
        exact ⟨.four, (spell_four hform (Nat.not_lt.mp hlen)).symm⟩
      · next tail hform =>
        split_ifs at h with hlen
        cases h
        exact ⟨.eight, (spell_eight hform (Nat.not_lt.mp hlen)).symm⟩
      · simp at h

end Spelled

/-- The length of the head an item starts with. -/
def headWidth (s : Octets) : ℕ :=
  match decodeHead s with
  | some (_, _, rest) => s.length - rest.length
  | none => 0

variable {s raw : Octets} {map : RawMap}

/-- Two items with the same head and content are equal when their heads have the same length. -/
theorem eq_of_headWidth {s' rest : Octets} {major argument : ℕ}
    (h : decodeHead s = some (major, argument, rest))
    (h' : decodeHead s' = some (major, argument, rest)) (hwidth : headWidth s = headWidth s') :
    s = s' := by
  obtain ⟨form, hs⟩ := decodeHead_spelled h
  obtain ⟨form', hs'⟩ := decodeHead_spelled h'
  have hlen : form.width = form'.width := by
    rw [headWidth, h, headWidth, h'] at hwidth
    have hl := congrArg List.length hs
    have hl' := congrArg List.length hs'
    rw [List.length_append, HeadForm.spell_length] at hl hl'
    simp only at hwidth
    omega
  rw [hs, hs', HeadForm.width_injective hlen]

/-! ### Items as they stand -/

/-- The limits of a decoder on nested items. -/
structure ReadLimits where
  nestedLevels : ℕ
  arrayElements : ℕ
  mapPairs : ℕ

/-- `skip` so many times in a row. -/
def skipMany (skip : Octets → Option Octets) : ℕ → Octets → Option Octets
  | 0, s => some s
  | n + 1, s => (skip s).bind (skipMany skip n)

/-- What follows one item, when `inner` skips the items inside it; tags and indefinite lengths are
refused. -/
def skipWith (limits : ReadLimits) (inner : Option (Octets → Option Octets)) (s : Octets) :
    Option Octets :=
  match decodeHead s with
  | none => none
  | some (major, argument, rest) =>
    if major = majorUnsigned ∨ major = majorNegative then some rest
    else if major = majorBytes ∨ major = majorText then
      if rest.length < argument then none else some (rest.drop argument)
    else if major = majorArray then
      if limits.arrayElements < argument then none
      else inner.bind fun skip => skipMany skip argument rest
    else if major = majorMap then
      if limits.mapPairs < argument then none
      else inner.bind fun skip => skipMany skip (2 * argument) rest
    else if major = majorTag then none
    else if headWidth s = 2 ∧ argument < 32 then none
    else some rest

/-- What follows one item with at most so many levels inside it. -/
def skipItem (limits : ReadLimits) : ℕ → Octets → Option Octets
  | 0, s => skipWith limits none s
  | levels + 1, s => skipWith limits (some (skipItem limits levels)) s

/-- The octets of one item, and what follows. -/
def rawItem (limits : ReadLimits) (levels : ℕ) (s : Octets) : Option (Octets × Octets) :=
  (skipItem limits levels s).map fun rest => (s.take (s.length - rest.length), rest)

/-- A raw item as a 64-bit integer. -/
def readInt (raw : Octets) : Option Int :=
  match decodeHead raw with
  | some (0, n, []) => if n < 2 ^ 63 then some n else none
  | some (1, n, []) => if n < 2 ^ 63 then some (-1 - n) else none
  | _ => none

/-- A raw item as a byte string. -/
def readBytes (raw : Octets) : Option Octets :=
  match decodeHead raw with
  | some (2, n, rest) => if rest.length = n then some rest else none
  | _ => none

/-- One head tells all of a non-negative integer. -/
theorem readInt_head {n : ℕ} (h : readInt raw = some (n : Int)) :
    decodeHead raw = some (0, n, []) := by
  rw [readInt] at h
  split at h
  · next k hhead =>
    split_ifs at h
    rw [hhead, Int.ofNat.inj (Option.some.inj h)]
  · next k _ =>
    split_ifs at h
    have := Option.some.inj h
    omega
  · simp at h

theorem readBytes_head {content : Octets} (h : readBytes raw = some content) :
    decodeHead raw = some (2, content.length, content) := by
  rw [readBytes] at h
  split at h
  · next n rest hhead =>
    split_ifs at h with hlen
    obtain rfl := Option.some.inj h
    rw [hhead, hlen]
  · simp at h

theorem readInt_ext {raw' : Octets} {n : ℕ} (h : readInt raw = some (n : Int))
    (h' : readInt raw' = some (n : Int)) (hwidth : headWidth raw = headWidth raw') : raw = raw' :=
  eq_of_headWidth (readInt_head h) (readInt_head h') hwidth

theorem readBytes_ext {raw' content : Octets} (h : readBytes raw = some content)
    (h' : readBytes raw' = some content) (hwidth : headWidth raw = headWidth raw') : raw = raw' :=
  eq_of_headWidth (readBytes_head h) (readBytes_head h') hwidth

/-! ### Maps from integers to raw items -/

/-- The number that the octets are, most significant first. -/
def bigEndian (s : Octets) : ℕ := s.foldl (fun n o => n * 256 + o.toNat) 0

theorem bigEndian_from_inj : ∀ {s t : Octets} {m n : ℕ}, s.length = t.length →
    s.foldl (fun n o => n * 256 + o.toNat) m = t.foldl (fun n o => n * 256 + o.toNat) n →
    m = n ∧ s = t
  | [], [], _, _, _, h => ⟨h, rfl⟩
  | a :: s, b :: t, m, n, hlen, h => by
    rw [List.foldl_cons, List.foldl_cons] at h
    obtain ⟨hstart, rfl⟩ := bigEndian_from_inj (Nat.succ.inj hlen) h
    have hab : a.toNat = b.toNat := by
      have := a.isLt
      have := b.isLt
      omega
    have := a.isLt
    have := b.isLt
    exact ⟨by omega, by rw [BitVec.eq_of_toNat_eq hab]⟩

/-- Octets of one length are told apart by their numbers. -/
theorem bigEndian_inj {t : Octets} (hlen : s.length = t.length) (h : bigEndian s = bigEndian t) :
    s = t := (bigEndian_from_inj hlen h).2

/-- An integer in preferred serialization. -/
def int (k : Int) : Octets :=
  if 0 ≤ k then head majorUnsigned k.toNat else head majorNegative (-1 - k).toNat

/-- A map, in the order it was read. -/
abbrev RawMap := List (Int × Octets)

def RawMap.lookup (map : RawMap) (key : Int) : Option Octets :=
  (map.find? fun pair => decide (pair.1 = key)).map (·.2)

theorem RawMap.mem_of_lookup {key : Int} (h : map.lookup key = some raw) : (key, raw) ∈ map := by
  rw [RawMap.lookup, Option.map_eq_some_iff] at h
  obtain ⟨⟨k, r⟩, hfind, rfl⟩ := h
  have hkey : k = key := by simpa using List.find?_some hfind
  rw [← hkey]
  exact List.mem_of_find?_eq_some hfind

/-- So many pairs, and nothing behind them. -/
def readPairs (limits : ReadLimits) : ℕ → Octets → Option RawMap
  | 0, s => if s = [] then some [] else none
  | n + 1, s => do
    let (rawKey, s) ← rawItem limits (limits.nestedLevels - 1) s
    let key ← readInt rawKey
    let (raw, s) ← rawItem limits (limits.nestedLevels - 1) s
    let pairs ← readPairs limits n s
    some ((key, raw) :: pairs)

/-- A map without a repeated key. -/
def readMap (limits : ReadLimits) (s : Octets) : Option RawMap :=
  match decodeHead s with
  | some (5, n, rest) =>
    if limits.mapPairs < n then none
    else (readPairs limits n rest).bind fun pairs =>
      if (pairs.map (·.1)).Nodup then some pairs else none
  | _ => none

/-- The canonical order of keys: shorter first, then as octets. -/
def keyLe (p q : Int × Octets) : Prop :=
  (int p.1).length < (int q.1).length ∨
    ((int p.1).length = (int q.1).length ∧ bigEndian (int p.1) ≤ bigEndian (int q.1))

instance : DecidableRel keyLe := fun p q => by unfold keyLe; infer_instance

instance : Std.Total keyLe := ⟨fun p q => by unfold keyLe; omega⟩

instance : IsTrans (Int × Octets) keyLe := ⟨fun p q r h h' => by unfold keyLe at *; omega⟩

/-- The map in canonical order, its values as they stand. -/
def writeMap (map : RawMap) : Octets :=
  mapHead map.length ++ (map.insertionSort keyLe).flatMap fun pair => int pair.1 ++ pair.2

/-- A map is written the same in whatever order it was read. -/
theorem writeMap_perm {map' : RawMap} (h : map.Perm map')
    (hkeys : ∀ p ∈ map, ∀ q ∈ map, keyLe p q → keyLe q p → p = q) : writeMap map = writeMap map' := by
  have hperm : (map.insertionSort keyLe).Perm (map'.insertionSort keyLe) :=
    ((List.perm_insertionSort keyLe map).trans h).trans (List.perm_insertionSort keyLe map').symm
  have hsorted : map.insertionSort keyLe = map'.insertionSort keyLe := by
    refine hperm.eq_of_pairwise ?_ (List.pairwise_insertionSort keyLe map)
      (List.pairwise_insertionSort keyLe map')
    intro p q hp hq
    exact hkeys p ((List.mem_insertionSort keyLe).mp hp) q
      (h.mem_iff.mpr ((List.mem_insertionSort keyLe).mp hq))
  rw [writeMap, writeMap, h.length_eq, hsorted]

/-- A map that has the keys of a list without repetition, and no more, is that list reordered. -/
theorem RawMap.perm_of_lookups {pairs : RawMap} (hnodup : pairs.Nodup)
    (hlookup : ∀ p ∈ pairs, map.lookup p.1 = some p.2) (hlength : map.length ≤ pairs.length) :
    pairs.Perm map :=
  (List.subperm_of_subset hnodup fun p hp => RawMap.mem_of_lookup (hlookup p hp)).perm_of_length_le
    hlength

/-- Read a map and compare its canonical encoding with the input. -/
def decodeRawMap (limits : ReadLimits) (s : Octets) : Option RawMap :=
  if s = [] then none
  else (readMap limits s).bind fun map => if writeMap map = s then some map else none

theorem decodeRawMap_eq {limits : ReadLimits} (h : decodeRawMap limits s = some map) : s = writeMap map := by
  rw [decodeRawMap] at h
  split_ifs at h
  obtain ⟨found, -, h⟩ := Option.bind_eq_some_iff.mp h
  split_ifs at h with heq
  rw [← Option.some.inj h, heq]

end Cbor
