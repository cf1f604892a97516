/-
Two slots written in turn.

A store keeps its value in two slots, each of which holds an entry with a generation
or nothing that can be read.  The newest entry counts; a new value is written, with
the next generation, into the other slot.  A write may leave its slot as it was, with
the new entry, or unreadable.

* `newest_keep`, `newest_new` — the value that counts is the old one or the new one;
* `Sound.replace` — generations stay consecutive, so that the newest is never in doubt.
-/
import Mathlib.Data.Nat.Notation
import Mathlib.Logic.Function.Basic

namespace TwoSlot

structure Entry (α : Type) where
  generation : ℕ
  value : α

/-- The two slots, `false` the first. -/
abbrev Slots (α : Type) := Bool → Option (Entry α)

/-- Which slot counts. -/
inductive Latest
  | nowhere
  | ambiguous
  | slot (i : Bool)
  deriving DecidableEq

section Newest

variable {α : Type}

def latest (s : Slots α) : Latest :=
  match s false, s true with
  | none, none => .nowhere
  | some _, none => .slot false
  | none, some _ => .slot true
  | some e, some e' =>
    if e.generation = e'.generation then .ambiguous
    else if e'.generation < e.generation then .slot false
    else .slot true

/-- The entry that counts. -/
def newest (s : Slots α) : Option (Entry α) :=
  match latest s with
  | .slot i => s i
  | _ => none

/-- The slot to write next. -/
def target (s : Slots α) : Bool :=
  match latest s with
  | .slot i => !i
  | _ => false

/-- The generation of the entry that counts, zero if there is none. -/
def generation (s : Slots α) : ℕ := (newest s).elim 0 Entry.generation

/-- What a write of `value` may leave in its slot. -/
def Left (s : Slots α) (value : α) (x : Option (Entry α)) : Prop :=
  x = s (target s) ∨ x = none ∨ x = some ⟨generation s + 1, value⟩

/-- The slots after a write. -/
def replace (s : Slots α) (x : Option (Entry α)) : Slots α := Function.update s (target s) x

/-- A slot whose entry is newer than the other's counts. -/
theorem latest_eq_slot {s : Slots α} {i : Bool} {e : Entry α} (he : s i = some e)
    (hnew : ∀ e', s (!i) = some e' → e'.generation < e.generation) : latest s = .slot i := by
  rcases h : s (!i) with _ | e' <;> cases i <;> grind [latest]

/-- The four shapes the slots can have, up to their order. -/
theorem latest_cases (s : Slots α) :
    (latest s = .nowhere ∧ s false = none ∧ s true = none) ∨
    (latest s = .ambiguous ∧ ∃ e e', s false = some e ∧ s true = some e' ∧
      e.generation = e'.generation) ∨
    ∃ i e, latest s = .slot i ∧ s i = some e ∧
      ∀ e', s (!i) = some e' → e'.generation < e.generation := by
  have hslot : ∀ i e, s i = some e → (∀ e', s (!i) = some e' → e'.generation < e.generation) →
      ∃ i e, latest s = .slot i ∧ s i = some e ∧
        ∀ e', s (!i) = some e' → e'.generation < e.generation :=
    fun i e he hnew => ⟨i, e, latest_eq_slot he hnew, he, hnew⟩
  rcases h0 : s false with _ | e <;> rcases h1 : s true with _ | e'
  · exact .inl ⟨by simp [latest, h0, h1], rfl, rfl⟩
  · exact .inr (.inr (hslot true e' h1 (by simp [h0])))
  · exact .inr (.inr (hslot false e h0 (by simp [h1])))
  · rcases Nat.lt_trichotomy e.generation e'.generation with hlt | heq | hgt
    · exact .inr (.inr (hslot true e' h1 (by simpa [h0] using hlt)))
    · exact .inr (.inl ⟨by simp [latest, h0, h1, heq], e, e', rfl, rfl, heq⟩)
    · exact .inr (.inr (hslot false e h0 (by simpa [h1] using hgt)))

variable {s : Slots α} {x : Option (Entry α)}

theorem newest_of_slot {i : Bool} (h : latest s = .slot i) : newest s = s i := by
  rw [newest, h]

theorem generation_of_newest {e : Entry α} (h : newest s = some e) :
    generation s = e.generation := by
  rw [generation, h]
  rfl

variable (hs : latest s ≠ .ambiguous)

include hs

/-- The entry that counts is in the slot that is not written next. -/
theorem newest_eq : newest s = s (!target s) := by
  rcases latest_cases s with ⟨hl, -, h1⟩ | ⟨hl, -⟩ | ⟨i, e, hl, -⟩
  · simp [newest, target, hl, h1]
  · exact absurd hl hs
  · simp [newest, target, hl]

/-- **An old or unreadable slot does not count**: the newest entry stays. -/
theorem newest_keep (hx : x = s (target s) ∨ x = none) :
    latest (replace s x) = latest s ∧ newest (replace s x) = newest s := by
  rcases hx with rfl | rfl
  · rw [replace, Function.update_eq_self]
    exact ⟨rfl, rfl⟩
  rcases latest_cases s with ⟨hl, h0, h1⟩ | ⟨hl, -⟩ | ⟨i, e, hl, he, -⟩
  · have hsame : replace s none = s := by
      rw [replace, target, hl]
      exact Function.update_eq_self_iff.mpr h0.symm
    rw [hsame]
    exact ⟨rfl, rfl⟩
  · exact absurd hl hs
  · have hi : replace s none i = some e := by simp [replace, target, hl, he]
    have hlatest : latest (replace s none) = .slot i :=
      latest_eq_slot hi (by simp [replace, target, hl])
    rw [hlatest, hl, newest_of_slot hlatest, newest_of_slot hl, hi, he]
    exact ⟨rfl, rfl⟩

/-- **A new entry counts.** -/
theorem newest_new (value : α) :
    latest (replace s (some ⟨generation s + 1, value⟩)) = .slot (target s) ∧
      newest (replace s (some ⟨generation s + 1, value⟩)) = some ⟨generation s + 1, value⟩ := by
  have hself : replace s (some ⟨generation s + 1, value⟩) (target s)
      = some ⟨generation s + 1, value⟩ := Function.update_self _ _ _
  have hlatest : latest (replace s (some ⟨generation s + 1, value⟩)) = .slot (target s) := by
    refine latest_eq_slot hself fun e' he' => ?_
    rw [replace, Function.update_of_ne (by simp), ← newest_eq hs] at he'
    rw [← generation_of_newest he']
    exact Nat.lt_succ_self _
  exact ⟨hlatest, (newest_of_slot hlatest).trans hself⟩

/-- The generation that counts never goes down. -/
theorem generation_le_replace {value : α} (hx : Left s value x) :
    generation s ≤ generation (replace s x) := by
  rcases hx with hx | hx | rfl
  · exact Nat.le_of_eq (by rw [generation, generation, (newest_keep hs (.inl hx)).2])
  · exact Nat.le_of_eq (by rw [generation, generation, (newest_keep hs (.inr hx)).2])
  · rw [generation_of_newest (newest_new hs value).2]
    exact Nat.le_succ _

/-- A write keeps the slots from being ambiguous. -/
theorem latest_replace_ne {value : α} (hx : Left s value x) :
    latest (replace s x) ≠ .ambiguous := by
  rcases hx with hx | hx | rfl
  · rwa [(newest_keep hs (.inl hx)).1]
  · rwa [(newest_keep hs (.inr hx)).1]
  · rw [(newest_new hs value).1]
    simp

/-- The value that counts, `unset` if there is none. -/
def value (unset : α) (s : Slots α) : α := (newest s).elim unset Entry.value

/-- A write takes effect or has none. -/
theorem value_replace (unset : α) {new : α} (hx : Left s new x) :
    ∃ took : Bool, value unset (replace s x) = if took then new else value unset s := by
  rcases hx with hx | hx | rfl
  · exact ⟨false, by rw [value, (newest_keep hs (.inl hx)).2]; rfl⟩
  · exact ⟨false, by rw [value, (newest_keep hs (.inr hx)).2]; rfl⟩
  · exact ⟨true, by rw [value, (newest_new hs new).2]; rfl⟩

/-- The last of the writes that took effect, `v` if none did. -/
def lastEffective (v : α) : List (α × Bool) → α
  | [] => v
  | (w, took) :: writes => lastEffective (if took then w else v) writes

omit hs

theorem lastEffective_mem (v : α) (writes : List (α × Bool)) :
    lastEffective v writes = v ∨ ∃ j : ℕ, writes[j]? = some (lastEffective v writes, true) := by
  induction writes generalizing v with
  | nil => exact .inl rfl
  | cons write writes ih =>
    obtain ⟨w, took⟩ := write
    rcases ih (if took then w else v) with h | ⟨j, hj⟩
    · rw [lastEffective, h]
      cases took with
      | false => exact .inl rfl
      | true => exact .inr ⟨0, rfl⟩
    · exact .inr ⟨j + 1, hj⟩

/-- After a write that took effect, only later ones count. -/
theorem lastEffective_after (v : α) {writes : List (α × Bool)} {k : ℕ} {w : α}
    (h : writes[k]? = some (w, true)) :
    lastEffective v writes = w ∨
      ∃ j : ℕ, k < j ∧ writes[j]? = some (lastEffective v writes, true) := by
  induction writes generalizing v k with
  | nil => simp at h
  | cons write writes ih =>
    cases k with
    | zero =>
      obtain rfl : write = (w, true) := Option.some.inj h
      rcases lastEffective_mem w writes with hw | ⟨j, hj⟩
      · exact .inl hw
      · exact .inr ⟨j + 1, Nat.succ_pos j, hj⟩
    | succ k =>
      obtain ⟨w', took⟩ := write
      rcases ih (if took then w' else v) h with hw | ⟨j, hlt, hj⟩
      · exact .inl hw
      · exact .inr ⟨j + 1, Nat.succ_lt_succ hlt, hj⟩

end Newest

/-- Two readable slots have consecutive generations, and their values are related as
an earlier and a later one. -/
def Sound {α : Type} (R : α → α → Prop) (s : Slots α) : Prop :=
  ∀ i e e', s i = some e → s (!i) = some e' →
    (e'.generation = e.generation + 1 ∧ R e.value e'.value) ∨
    (e.generation = e'.generation + 1 ∧ R e'.value e.value)

section Sound

variable {α : Type} {R : α → α → Prop} {s : Slots α}

theorem Sound.empty : Sound R (fun _ => none) := by
  intro i e e' he
  simp at he

/-- It is enough to look from one of the slots. -/
theorem Sound.of_slot (i : Bool) (h : ∀ e e', s i = some e → s (!i) = some e' →
    (e'.generation = e.generation + 1 ∧ R e.value e'.value) ∨
    (e.generation = e'.generation + 1 ∧ R e'.value e.value)) : Sound R s := by
  intro j e e' he he'
  by_cases hj : j = i
  · exact h e e' (hj ▸ he) (hj ▸ he')
  · obtain rfl : (!j) = i := by cases i <;> cases j <;> simp_all
    exact (h e' e he' (by rwa [Bool.not_not])).symm

theorem Sound.not_ambiguous (h : Sound R s) : latest s ≠ .ambiguous := by
  intro hl
  rcases latest_cases s with ⟨hl', -⟩ | ⟨-, e, e', h0, h1, heq⟩ | ⟨i, e, hl', -⟩
  · simp [hl] at hl'
  · have := h false e e' h0 h1
    omega
  · simp [hl] at hl'

/-- **A write keeps the slots sound**, whatever it leaves. -/
theorem Sound.replace (h : Sound R s) {value : α} (hR : ∀ e, newest s = some e → R e.value value)
    {x : Option (Entry α)} (hx : Left s value x) : Sound R (TwoSlot.replace s x) := by
  rcases hx with rfl | rfl | rfl
  · rwa [TwoSlot.replace, Function.update_eq_self]
  · exact .of_slot (target s) fun e e' he => absurd he (by simp [TwoSlot.replace])
  · -- the other slot, if readable, holds the entry that counted before
    refine .of_slot (target s) fun e e' he he' => ?_
    rw [TwoSlot.replace, Function.update_self, Option.some.injEq] at he
    rw [TwoSlot.replace, Function.update_of_ne (by simp), ← newest_eq h.not_ambiguous] at he'
    subst he
    exact .inr ⟨by rw [← generation_of_newest he'], hR e' he'⟩

end Sound

end TwoSlot
