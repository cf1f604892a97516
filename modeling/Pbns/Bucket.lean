/-
Ordered buckets: a finite map from keys that are lists to values, with its keys in increasing
order, as a key-value store keeps them, and with a cursor.

`Bucket.get_put` says what a bucket is as a map.  `Bucket.mem_scan` is about the cursor: to seek
a list and to walk on as long as the keys start with it is to visit everything under that list.
-/
import Mathlib.Data.List.Lex
import Mathlib.Order.Lattice
import Mathlib.Tactic.Common

variable {α β : Type} [LinearOrder α]

/-- Entries in the order of their keys. -/
structure Bucket (α β : Type) [LinearOrder α] where
  entries : List (List α × β)
  sorted : entries.Pairwise fun e e' => e.1 < e'.1

namespace Bucket

/-! ### Keys under a list -/

variable {p key : List α} {value : β} {entries : List (List α × β)}

theorem not_lt_of_isPrefix {k : List α} (h : p <+: k) : ¬ k < p := by
  obtain ⟨rest, rfl⟩ := h
  induction p with
  | nil => exact List.not_lt_nil _
  | cons a p ih =>
    rw [List.cons_append, List.cons_lt_cons_iff]
    rintro (hlt | ⟨-, hlt⟩)
    · exact lt_irrefl a hlt
    · exact ih hlt

/-- The keys that start with a list stand together. -/
theorem isPrefix_of_between {k k' : List α} (hp : ¬ k < p) (hlt : k < k') (h : p <+: k') :
    p <+: k := by
  induction p generalizing k k' with
  | nil => exact List.nil_prefix
  | cons a p ih =>
    cases k' with
    | nil => simp at h
    | cons b k' =>
      obtain ⟨rfl, htail⟩ := List.cons_prefix_cons.mp h
      cases k with
      | nil => exact absurd (List.nil_lt_cons a p) hp
      | cons c k =>
        rw [List.cons_lt_cons_iff, not_or] at hp
        -- the first element is neither below nor above that of the list
        rcases List.cons_lt_cons_iff.mp hlt with hc | ⟨rfl, hk⟩
        · exact absurd hc hp.1
        · exact List.cons_prefix_cons.mpr ⟨rfl, ih (fun hlt => hp.2 ⟨rfl, hlt⟩) hk htail⟩

/-! ### The map -/

def empty : Bucket α β := ⟨[], List.Pairwise.nil⟩

def get (b : Bucket α β) (key : List α) : Option β :=
  (b.entries.find? fun e => decide (e.1 = key)).map Prod.snd

def insertEntry (key : List α) (value : β) : List (List α × β) → List (List α × β)
  | [] => [(key, value)]
  | e :: rest =>
    if key < e.1 then (key, value) :: e :: rest
    else if key = e.1 then (key, value) :: rest
    else e :: insertEntry key value rest

theorem mem_insertEntry (hsorted : entries.Pairwise fun e e' => e.1 < e'.1) {e : List α × β} :
    e ∈ insertEntry key value entries ↔ e = (key, value) ∨ e ∈ entries ∧ e.1 ≠ key := by
  induction entries with
  | nil => simp [insertEntry]
  | cons e₀ rest ih =>
    obtain ⟨hfirst, hrest⟩ := List.pairwise_cons.mp hsorted
    rw [insertEntry]
    split_ifs with hlt heq
    · -- every key is above the new one
      have hother : e ∈ e₀ :: rest → e.1 ≠ key := by
        rintro he rfl
        rcases List.mem_cons.mp he with rfl | he
        · exact lt_irrefl _ hlt
        · exact lt_asymm hlt (hfirst e he)
      rw [List.mem_cons]
      constructor
      · rintro (rfl | he)
        · exact .inl rfl
        · exact .inr ⟨he, hother he⟩
      · rintro (rfl | ⟨he, -⟩)
        · exact .inl rfl
        · exact .inr he
    · subst heq
      rw [List.mem_cons, List.mem_cons]
      constructor
      · rintro (rfl | he)
        · exact .inl rfl
        · exact .inr ⟨.inr he, (ne_of_lt (hfirst e he)).symm⟩
      · rintro (rfl | ⟨rfl | he, hne⟩)
        · exact .inl rfl
        · exact absurd rfl hne
        · exact .inr he
    · rw [List.mem_cons, ih hrest, List.mem_cons]
      constructor
      · rintro (rfl | rfl | ⟨he, hne⟩)
        · exact .inr ⟨.inl rfl, Ne.symm heq⟩
        · exact .inl rfl
        · exact .inr ⟨.inr he, hne⟩
      · rintro (rfl | ⟨rfl | he, hne⟩)
        · exact .inr (.inl rfl)
        · exact .inl rfl
        · exact .inr (.inr ⟨he, hne⟩)

theorem sorted_insertEntry (hsorted : entries.Pairwise fun e e' => e.1 < e'.1) :
    (insertEntry key value entries).Pairwise fun e e' => e.1 < e'.1 := by
  induction entries with
  | nil => exact List.pairwise_singleton _ _
  | cons e₀ rest ih =>
    obtain ⟨hfirst, hrest⟩ := List.pairwise_cons.mp hsorted
    rw [insertEntry]
    split_ifs with hlt heq
    · refine List.pairwise_cons.mpr ⟨fun e he => ?_, hsorted⟩
      rcases List.mem_cons.mp he with rfl | he
      · exact hlt
      · exact lt_trans hlt (hfirst e he)
    · subst heq
      exact List.pairwise_cons.mpr ⟨hfirst, hrest⟩
    · refine List.pairwise_cons.mpr ⟨fun e he => ?_, ih hrest⟩
      rcases (mem_insertEntry hrest).mp he with rfl | ⟨he, -⟩
      · exact lt_of_le_of_ne (not_lt.mp hlt) (Ne.symm heq)
      · exact hfirst e he

def put (b : Bucket α β) (key : List α) (value : β) : Bucket α β :=
  ⟨insertEntry key value b.entries, sorted_insertEntry b.sorted⟩

theorem get_eq_some (b : Bucket α β) :
    b.get key = some value ↔ (key, value) ∈ b.entries := by
  obtain ⟨entries, hsorted⟩ := b
  show (entries.find? _).map Prod.snd = some value ↔ (key, value) ∈ entries
  induction entries with
  | nil => simp
  | cons e₀ rest ih =>
    obtain ⟨hfirst, hrest⟩ := List.pairwise_cons.mp hsorted
    obtain ⟨key₀, value₀⟩ := e₀
    by_cases hkey : key₀ = key
    · subst hkey
      rw [List.find?_cons_of_pos (by simp), List.mem_cons]
      constructor
      · intro h
        obtain rfl : value₀ = value := by simpa using h
        exact .inl rfl
      · rintro (h | hmem)
        · rw [(Prod.mk.inj h).2]
          rfl
        · exact absurd (hfirst _ hmem) (lt_irrefl _)
    · rw [List.find?_cons_of_neg (by simpa using hkey), ih hrest, List.mem_cons]
      constructor
      · exact .inr
      · rintro (h | hmem)
        · exact absurd (Prod.mk.inj h).1.symm hkey
        · exact hmem

theorem get_put (b : Bucket α β) (key key' : List α) (value : β) :
    (b.put key value).get key' = if key' = key then some value else b.get key' := by
  refine Option.ext fun v => ?_
  have hmem : (key', v) ∈ insertEntry key value b.entries
      ↔ (key', v) = (key, value) ∨ (key', v) ∈ b.entries ∧ key' ≠ key := mem_insertEntry b.sorted
  rw [get_eq_some]
  show (key', v) ∈ insertEntry key value b.entries ↔ _
  rw [hmem]
  by_cases hkey : key' = key
  · subst hkey
    simp [eq_comm]
  · rw [if_neg hkey, get_eq_some]
    simp [hkey]

/-! ### The cursor -/

/-- The entries from the first key that is not below `p` on, as long as the keys start with
`p`. -/
def scan (b : Bucket α β) (p : List α) : List (List α × β) :=
  (b.entries.dropWhile fun e => decide (e.1 < p)).takeWhile fun e => decide (p <+: e.1)

theorem takeWhile_eq_filter (hsorted : entries.Pairwise fun e e' => e.1 < e'.1)
    (hp : ∀ e ∈ entries, ¬ e.1 < p) :
    entries.takeWhile (fun e => decide (p <+: e.1)) = entries.filter fun e => decide (p <+: e.1) := by
  induction entries with
  | nil => rfl
  | cons e rest ih =>
    obtain ⟨hfirst, hrest⟩ := List.pairwise_cons.mp hsorted
    by_cases he : p <+: e.1
    · rw [List.takeWhile_cons_of_pos (by simpa using he), List.filter_cons_of_pos (by simpa using he),
        ih hrest fun e' he' => hp e' (List.mem_cons_of_mem _ he')]
    · -- nothing behind it starts with `p` either
      rw [List.takeWhile_cons_of_neg (by simpa using he), List.filter_cons_of_neg (by simpa using he),
        eq_comm, List.filter_eq_nil_iff]
      intro e' he' hpre
      exact he (isPrefix_of_between (hp e List.mem_cons_self) (hfirst e' he') (by simpa using hpre))

theorem scan_eq_filter (b : Bucket α β) (p : List α) :
    b.scan p = b.entries.filter fun e => decide (p <+: e.1) := by
  obtain ⟨entries, hsorted⟩ := b
  show (entries.dropWhile fun e => decide (e.1 < p)).takeWhile _ = _
  induction entries with
  | nil => rfl
  | cons e rest ih =>
    obtain ⟨hfirst, hrest⟩ := List.pairwise_cons.mp hsorted
    by_cases he : e.1 < p
    · have hpre : ¬ p <+: e.1 := fun h => not_lt_of_isPrefix h he
      rw [List.dropWhile_cons_of_pos (by simpa using he), List.filter_cons_of_neg (by simpa using hpre)]
      exact ih hrest
    · rw [List.dropWhile_cons_of_neg (by simpa using he)]
      refine takeWhile_eq_filter hsorted fun e' he' => ?_
      rcases List.mem_cons.mp he' with rfl | he'
      · exact he
      · exact fun hlt => he (lt_trans (hfirst e' he') hlt)

theorem mem_scan (b : Bucket α β) :
    (key, value) ∈ b.scan p ↔ p <+: key ∧ b.get key = some value := by
  rw [scan_eq_filter, List.mem_filter, get_eq_some, and_comm]
  simp

theorem pairwise_scan (b : Bucket α β) (p : List α) :
    (b.scan p).Pairwise fun e e' => e.1 < e'.1 := by
  rw [scan_eq_filter]
  exact b.sorted.filter _

end Bucket
