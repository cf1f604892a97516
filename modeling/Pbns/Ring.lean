/-
Queues in a circular memory.

`contents cells head length` walks `length` cells from `head`, going round at the end
of the memory.  The rules say what the three operations of such a queue do to it:

* `take_contents` — the front of the queue, up to the end of the memory, is one region;
* `contents_advance`, `contents_wrap` — moving `head` drops the front;
* `contents_store_open`, `contents_store_round` — storing behind the last cell, before
  or after the queue has gone round, appends.
-/
import Mathlib.Data.List.Basic
import Mathlib.Tactic.Common

namespace Ring

variable {α : Type*} {cells data : List α} {head length amount : ℕ}

/-- The `length` cells from `head` on. -/
def contents (cells : List α) (head length : ℕ) : List α :=
  (cells.drop head ++ cells.take head).take length

/-- The memory with `data` stored from cell `start` on. -/
def store (cells : List α) (start : ℕ) (data : List α) : List α :=
  cells.take start ++ data ++ cells.drop (start + data.length)

@[simp] theorem contents_zero : contents cells head 0 = [] := by
  simp [contents]

theorem length_contents (h : length ≤ cells.length) (hh : head ≤ cells.length) :
    (contents cells head length).length = length := by
  rw [contents, List.length_take, List.length_append, List.length_drop, List.length_take]
  omega

theorem length_store {start : ℕ} (h : start + data.length ≤ cells.length) :
    (store cells start data).length = cells.length := by
  simp only [store, List.length_append, List.length_take, List.length_drop]
  omega

theorem take_contents (hl : amount ≤ length) (he : head + amount ≤ cells.length) :
    (contents cells head length).take amount = (cells.drop head).take amount := by
  rw [contents, List.take_take, Nat.min_eq_left hl, List.take_append_of_le_length]
  rw [List.length_drop]
  omega

theorem contents_advance (hl : length ≤ cells.length) (ha : amount ≤ length)
    (he : head + amount ≤ cells.length) :
    contents cells (head + amount) (length - amount)
      = (contents cells head length).drop amount := by
  -- the two queues, cell by cell
  refine List.ext_getElem? fun i => ?_
  simp only [contents, List.getElem?_append, List.getElem?_take, List.getElem?_drop, List.length_drop]
  grind

theorem contents_wrap : contents cells cells.length length = contents cells 0 length := by
  simp [contents]

/-- A longer walk extends a shorter one. -/
theorem contents_take (n : ℕ) :
    (contents cells head (length + n)).take length = contents cells head length := by
  rw [contents, List.take_take, Nat.min_eq_left (Nat.le_add_right _ _), contents]

/-- Storing behind a queue that does not reach the end of the memory. -/
theorem contents_store_open (h : head + length + data.length ≤ cells.length) :
    contents (store cells (head + length) data) head (length + data.length)
      = contents cells head length ++ data := by
  refine List.ext_getElem? fun i => ?_
  simp only [contents, store, List.getElem?_append, List.getElem?_take, List.getElem?_drop, List.length_drop,
    List.length_take, List.length_append]
  grind

/-- Storing behind a queue that has gone round. -/
theorem contents_store_round {start : ℕ} (hstart : start + cells.length = head + length)
    (hroom : start + data.length ≤ head) (hhead : head ≤ cells.length) :
    contents (store cells start data) head (length + data.length)
      = contents cells head length ++ data := by
  refine List.ext_getElem? fun i => ?_
  simp only [contents, store, List.getElem?_append, List.getElem?_take, List.getElem?_drop, List.length_drop,
    List.length_take, List.length_append]
  grind

end Ring
