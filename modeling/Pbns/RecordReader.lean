/-
The record reader (`src/core/record_reader.c`): cuts a received octet stream at its
zero delimiters, one record at a time, into a fixed storage.

The storage is passed beside the reader because the broker lends the same memory to
its encoder.  `Holding` says what a reader has seen of the current record; with it

* `recordReaderPush_open` — input without a delimiter only extends what is held;
* `recordReaderPush_close` — the delimiter hands out exactly what is held, unless it
  is empty or longer than the storage;
* `record_reader_splits` — however a stream is cut into pushes, its records are the
  pieces between its zeros.
-/
import Pbns.FrameTypes

namespace Pbns

open Octets

/-- `pbns_record_reader`, without the storage itself. -/
structure RecordReader where
  storageLen : ℕ
  initialized : Bool
  discarding : Bool
  ready : Bool
  failed : Bool
  deriving DecidableEq, Repr

/-- What `pbns_record_reader_push` returns and writes; `record` is the view it hands
out. -/
structure Pushed where
  status : Status
  reader : RecordReader
  storage : Octets
  consumed : ℕ
  record : Option Octets
  deriving DecidableEq

def recordReaderInit : RecordReader := ⟨0, true, false, false, false⟩

def recordReaderReset (reader : RecordReader) : RecordReader :=
  if reader.initialized then
    { reader with storageLen := 0, discarding := false, ready := false, failed := false }
  else reader

/-- The loop of `pbns_record_reader_push`. -/
def pushLoop (reader : RecordReader) (storage : Octets) (consumed : ℕ) : Octets → Pushed
  | [] => ⟨.errWouldBlock, reader, storage, consumed, none⟩
  | octet :: rest =>
    if reader.discarding then
      if octet = 0#8 then
        ⟨.errLimit, { reader with failed := true }, storage, consumed + 1, none⟩
      else pushLoop reader storage (consumed + 1) rest
    else if octet = 0#8 then
      if reader.storageLen = 0 then
        ⟨.errFormat, { reader with failed := true }, storage, consumed + 1, none⟩
      else
        ⟨.ok, { reader with ready := true }, storage, consumed + 1,
          some (storage.take reader.storageLen)⟩
    else if storage.length ≤ reader.storageLen then
      pushLoop { reader with discarding := true } storage (consumed + 1) rest
    else
      pushLoop { reader with storageLen := reader.storageLen + 1 }
        (storage.set reader.storageLen octet) (consumed + 1) rest

def recordReaderPush (reader : RecordReader) (storage input : Octets) : Pushed :=
  if ¬ reader.initialized ∨ reader.ready ∨ reader.failed then
    ⟨.errState, reader, storage, 0, none⟩
  else pushLoop reader storage 0 input

/-- The reader has seen the octets `s` of a record whose delimiter is still to come:
they are in the storage, or there are too many of them and it is discarding. -/
structure Holding (storage : Octets) (reader : RecordReader) (s : Octets) : Prop where
  initialized : reader.initialized = true
  notReady : reader.ready = false
  notFailed : reader.failed = false
  discarding : reader.discarding = decide (storage.length < s.length)
  kept : s.length ≤ storage.length → reader.storageLen = s.length ∧ storage.take s.length = s

variable {reader : RecordReader} {storage s t : Octets} {cap : ℕ} {cur : Octets} {offset : ℕ}

theorem holding_reset (h : reader.initialized = true) (storage : Octets) :
    Holding storage (recordReaderReset reader) [] := by
  rw [recordReaderReset, if_pos h]
  exact ⟨h, rfl, rfl, rfl, fun _ => ⟨rfl, rfl⟩⟩

/-- A reader that holds nothing does not care what the storage contains. -/
theorem Holding.of_nil (h : Holding storage reader []) (storage' : Octets) : Holding storage' reader [] :=
  ⟨h.initialized, h.notReady, h.notFailed, h.discarding.trans (by simp),
    fun _ => ⟨(h.kept (by simp)).1, rfl⟩⟩

variable (h : Holding storage reader s)

include h

/-- One octet that is not the delimiter. -/
theorem pushLoop_octet {x : Octet} (hx : x ≠ 0#8) :
    ∃ reader' storage', storage'.length = storage.length ∧
      Holding storage' reader' (s ++ [x]) ∧ ∀ consumed rest,
        pushLoop reader storage consumed (x :: rest)
          = pushLoop reader' storage' (consumed + 1) rest := by
  have hd := h.discarding
  rcases Nat.lt_trichotomy s.length storage.length with hlt | heq | hgt
  · -- there is room for it
    rw [decide_eq_false (by omega)] at hd
    obtain ⟨hlen, htake⟩ := h.kept (by omega)
    refine ⟨{ reader with storageLen := reader.storageLen + 1 },
      storage.set reader.storageLen x, by simp, { h with discarding := ?_, kept := ?_ }, ?_⟩
    · simp only [hd, List.length_set, List.length_append, List.length_singleton]
      exact (decide_eq_false (by omega)).symm
    · intro _
      rw [List.length_append, List.length_singleton, hlen]
      refine ⟨rfl, ?_⟩
      rw [List.take_succ_eq_append_getElem (by simpa using hlt), List.take_set_of_le (Nat.le_refl _),
        htake, List.getElem_set_self]
    · intro consumed rest
      rw [pushLoop, hd, if_neg (by simp), if_neg hx, if_neg (by omega)]
  · -- the storage is full: from here on the record is discarded
    rw [decide_eq_false (by omega)] at hd
    obtain ⟨hlen, -⟩ := h.kept (by omega)
    refine ⟨{ reader with discarding := true }, storage, rfl, { h with discarding := ?_, kept := ?_ },
      ?_⟩
    · exact (decide_eq_true (by simp; omega)).symm
    · intro hle
      simp only [List.length_append, List.length_singleton] at hle
      omega
    · intro consumed rest
      rw [pushLoop, hd, if_neg (by simp), if_neg hx, if_pos (by omega)]
  · rw [decide_eq_true hgt] at hd
    refine ⟨reader, storage, rfl, { h with discarding := ?_, kept := ?_ }, ?_⟩
    · rw [hd]
      exact (decide_eq_true (by simp; omega)).symm
    · intro hle
      simp only [List.length_append, List.length_singleton] at hle
      omega
    · intro consumed rest
      rw [pushLoop, hd, if_pos rfl, if_neg hx]

/-- Input without a delimiter, octet by octet. -/
theorem pushLoop_open (ht : 0#8 ∉ t) : ∃ reader' storage', storage'.length = storage.length ∧
      Holding storage' reader' (s ++ t) ∧ ∀ consumed rest,
        pushLoop reader storage consumed (t ++ rest)
          = pushLoop reader' storage' (consumed + t.length) rest := by
  induction t generalizing s storage reader with
  | nil => exact ⟨reader, storage, rfl, by simpa using h, fun _ _ => rfl⟩
  | cons x t ih =>
    rw [List.mem_cons, not_or] at ht
    obtain ⟨r₁, st₁, hlen₁, h₁, hstep⟩ := pushLoop_octet h (Ne.symm ht.1)
    obtain ⟨r₂, st₂, hlen₂, h₂, hrest⟩ := ih h₁ ht.2
    refine ⟨r₂, st₂, hlen₂.trans hlen₁, by simpa using h₂, ?_⟩
    intro consumed rest
    rw [List.cons_append, hstep, hrest, List.length_cons]
    congr 1
    omega

/-- **Input without a delimiter** is taken whole and extends what is held. -/
theorem recordReaderPush_open (ht : 0#8 ∉ t) : ∃ reader' storage',
      recordReaderPush reader storage t = ⟨.errWouldBlock, reader', storage', t.length, none⟩ ∧
        storage'.length = storage.length ∧ Holding storage' reader' (s ++ t) := by
  obtain ⟨r, st, hlen, hr, hloop⟩ := pushLoop_open h ht
  refine ⟨r, st, ?_, hlen, hr⟩
  rw [recordReaderPush, if_neg (by simp [h.initialized, h.notReady, h.notFailed])]
  have := hloop 0 []
  rwa [List.append_nil, Nat.zero_add, pushLoop] at this

/-- The verdict at a delimiter, on the octets in front of it. -/
def recordVerdict (cap : ℕ) (s : Octets) : Except Status Octets :=
  if s = [] then .error .errFormat else if cap < s.length then .error .errLimit else .ok s

omit h in
theorem recordVerdict_eq_ok {record : Octets} :
    recordVerdict cap s = .ok record ↔ record = s ∧ s ≠ [] ∧ s.length ≤ cap := by
  rw [recordVerdict]
  split_ifs with hnil hlong
  · simp [hnil]
  · simp [hnil, Nat.not_le.mpr hlong]
  · simp [hnil, Nat.not_lt.mp hlong, eq_comm]

omit h in
theorem recordVerdict_eq_error {status : Status} (h : recordVerdict cap s = .error status) : status = .errFormat ∨ status = .errLimit := by
  rw [recordVerdict] at h
  split_ifs at h
  · exact .inl (Except.error.inj h).symm
  · exact .inr (Except.error.inj h).symm

/-- **The delimiter** is the last octet taken, and hands out what is held. -/
theorem recordReaderPush_close (ht : 0#8 ∉ t) (rest : Octets) :
    ∃ reader' storage', reader'.initialized = true ∧ storage'.length = storage.length ∧
      recordReaderPush reader storage (t ++ 0#8 :: rest)
        = match recordVerdict storage.length (s ++ t) with
          | .ok record => ⟨.ok, reader', storage', t.length + 1, some record⟩
          | .error status => ⟨status, reader', storage', t.length + 1, none⟩ := by
  obtain ⟨r, st, hlen, hr, hloop⟩ := pushLoop_open h ht
  have hd := hr.discarding
  have hpush : recordReaderPush reader storage (t ++ 0#8 :: rest)
      = pushLoop r st t.length (0#8 :: rest) := by
    rw [recordReaderPush, if_neg (by simp [h.initialized, h.notReady, h.notFailed]), hloop,
      Nat.zero_add]
  rw [hpush, recordVerdict, pushLoop]
  by_cases hnil : s ++ t = []
  · rw [hnil] at hd hr
    have hl0 : r.storageLen = 0 := (hr.kept (by simp)).1
    refine ⟨{ r with failed := true }, st, hr.initialized, hlen, ?_⟩
    rw [if_pos hnil, hd, if_neg (by simp), if_pos rfl, if_pos hl0]
  by_cases hlong : storage.length < (s ++ t).length
  · rw [decide_eq_true (by omega)] at hd
    refine ⟨{ r with failed := true }, st, hr.initialized, hlen, ?_⟩
    rw [if_neg hnil, if_pos hlong, if_pos hd, if_pos rfl]
  · rw [decide_eq_false (by omega)] at hd
    obtain ⟨hl, htake⟩ := hr.kept (by omega)
    have hpos := List.length_pos_iff.mpr hnil
    refine ⟨{ r with ready := true }, st, hr.initialized, hlen, ?_⟩
    rw [if_neg hnil, if_neg hlong, hd, if_neg (by simp), if_pos rfl, if_neg (by omega), hl, htake]

/-! ### The records of a stream -/

/-- The zero-delimited records of a stream, `cur` being the octets already seen of the
first one; octets behind the last delimiter are not a record yet. -/
def recordsFrom (cur : Octets) : Octets → List Octets
  | [] => []
  | x :: xs => if x = 0#8 then cur :: recordsFrom [] xs else recordsFrom (cur ++ [x]) xs

def records (s : Octets) : List Octets := recordsFrom [] s

omit h

theorem recordsFrom_append (ht : 0#8 ∉ t) (rest : Octets) :
    recordsFrom cur (t ++ rest) = recordsFrom (cur ++ t) rest := by
  induction t generalizing cur with
  | nil => simp
  | cons x t ih =>
    rw [List.mem_cons, not_or] at ht
    rw [List.cons_append, recordsFrom, if_neg (Ne.symm ht.1), ih ht.2]
    simp

theorem records_open (ht : 0#8 ∉ t) : records t = [] := by
  have : recordsFrom [] (t ++ []) = recordsFrom ([] ++ t) [] := recordsFrom_append ht []
  rwa [List.append_nil] at this

theorem records_close (ht : 0#8 ∉ t) (rest : Octets) :
    records (t ++ 0#8 :: rest) = t :: records rest := by
  rw [records, recordsFrom_append ht, List.nil_append, recordsFrom, if_pos rfl, records]

/-- A stream determines its first record and the rest. -/
theorem delimited_inj {u x y : Octets} (ht : 0#8 ∉ t) (hu : 0#8 ∉ u)
    (h : t ++ 0#8 :: x = u ++ 0#8 :: y) : t = u ∧ x = y := by
  have hrecords := records_close ht x
  rw [h, records_close hu y] at hrecords
  obtain rfl := (List.cons.inj hrecords).1
  exact ⟨rfl, (List.cons.inj (List.append_cancel_left h)).2⟩

/-- The records are the pieces between the zeros, all but the unfinished last one. -/
theorem recordsFrom_eq_splitOn (cur s : Octets) :
    recordsFrom cur s = ((s.splitOn 0#8).modifyHead (cur ++ ·)).dropLast := by
  induction s generalizing cur with
  | nil => simp [recordsFrom, List.splitOn]
  | cons x xs ih =>
    have hne := List.splitOnP_ne_nil (· == 0#8) xs
    rw [recordsFrom, List.splitOn, List.splitOnP_cons_eq_if_modifyHead]
    by_cases hx : x = 0#8
    · rw [if_pos hx, if_pos (by simpa using hx), ih, List.splitOn, List.modifyHead_cons,
        List.dropLast_cons_of_ne_nil hne, List.append_nil]
      congr 2
      cases List.splitOnP (· == 0#8) xs <;> rfl
    · rw [if_neg hx, if_neg (by simpa using hx), ih, List.splitOn, List.modifyHead_modifyHead]
      congr 2
      funext piece
      simp

theorem records_eq_splitOn (s : Octets) : records s = (s.splitOn 0#8).dropLast := by
  rw [records, recordsFrom_eq_splitOn]
  congr 1
  cases s.splitOn 0#8 <;> rfl

/-! ### Whole streams -/

/-- What the caller sees at a delimiter: the octets consumed up to there, and the record or
the error. -/
abbrev Cut := ℕ × Except Status Octets

/-- A caller with one push: at a result the reader is reset and the unconsumed rest is
pushed again.  `offset` counts the octets of earlier pushes. -/
def readPush : ℕ → RecordReader → Octets → ℕ → Octets → List Cut × RecordReader × Octets
  | 0, reader, storage, _, _ => ([], reader, storage)
  | fuel + 1, reader, storage, offset, input =>
    let pushed := recordReaderPush reader storage input
    if pushed.status = .errWouldBlock then ([], pushed.reader, pushed.storage)
    else
      let verdict : Except Status Octets :=
        match pushed.status, pushed.record with
        | .ok, some record => .ok record
        | status, _ => .error status
      let (cuts, reader, storage) := readPush fuel (recordReaderReset pushed.reader) pushed.storage
        (offset + pushed.consumed) (input.drop pushed.consumed)
      ((offset + pushed.consumed, verdict) :: cuts, reader, storage)

/-- A caller with one push after the other; every result consumes an octet, so a push of `n`
octets needs at most `n + 1` calls. -/
def readPushes (reader : RecordReader) (storage : Octets) (offset : ℕ) : List Octets → List Cut
  | [] => []
  | input :: inputs =>
    let (cuts, reader, storage) := readPush (input.length + 1) reader storage offset input
    cuts ++ readPushes reader storage (offset + input.length) inputs

/-- The verdicts on the given pieces, each at the end of its delimiter. -/
def verdicts (cap : ℕ) : ℕ → List Octets → List Cut
  | _, [] => []
  | offset, piece :: pieces =>
    (offset + piece.length + 1, recordVerdict cap piece) ::
      verdicts cap (offset + piece.length + 1) pieces

/-- The same octet by octet, `cur` being seen of the current piece. -/
def cutsFrom (cap : ℕ) : ℕ → Octets → Octets → List Cut
  | _, _, [] => []
  | offset, cur, x :: xs =>
    if x = 0#8 then (offset + 1, recordVerdict cap cur) :: cutsFrom cap (offset + 1) [] xs
    else cutsFrom cap (offset + 1) (cur ++ [x]) xs

theorem cutsFrom_append (ht : 0#8 ∉ t) (rest : Octets) :
    cutsFrom cap offset cur (t ++ rest) = cutsFrom cap (offset + t.length) (cur ++ t) rest := by
  induction t generalizing offset cur with
  | nil => simp
  | cons x t ih =>
    rw [List.mem_cons, not_or] at ht
    rw [List.cons_append, cutsFrom, if_neg (Ne.symm ht.1), ih ht.2, List.length_cons,
      List.append_assoc, List.singleton_append]
    congr 1
    omega

theorem cutsFrom_eq_verdicts (h : cur.length ≤ offset) (s : Octets) :
    cutsFrom cap offset cur s = verdicts cap (offset - cur.length) (recordsFrom cur s) := by
  induction s generalizing offset cur with
  | nil => rfl
  | cons x s ih =>
    rw [cutsFrom, recordsFrom]
    by_cases hx : x = 0#8
    · rw [if_pos hx, if_pos hx, ih (Nat.zero_le _), verdicts, Nat.sub_add_cancel h]
      rfl
    · rw [if_neg hx, if_neg hx, ih (by simpa using h), List.length_append, List.length_singleton,
        Nat.add_sub_add_right]

/-- **One push**, with `held` seen of the current record: what it cuts off, and what it
leaves held. -/
theorem readPush_cuts {fuel : ℕ} (offset : ℕ) {held input : Octets} (hfuel : input.length < fuel)
    (h : Holding storage reader held) :
    ∃ reader' storage' held' cuts, storage'.length = storage.length ∧
      Holding storage' reader' held' ∧
      readPush fuel reader storage offset input = (cuts, reader', storage') ∧
      ∀ rest, cutsFrom storage.length offset held (input ++ rest) =
        cuts ++ cutsFrom storage.length (offset + input.length) held' rest := by
  induction fuel generalizing offset reader storage held input with
  | zero => omega
  | succ fuel ih =>
    by_cases hz : 0#8 ∈ input
    · -- up to the first delimiter, and again from there
      obtain ⟨t, tail, rfl, ht⟩ := List.eq_append_cons_of_mem hz
      obtain ⟨r, st, hinit, hlen, hpush⟩ := recordReaderPush_close h ht tail
      rw [List.length_append, List.length_cons] at hfuel
      obtain ⟨reader', storage', held', cuts, hlen', hhold', hread, hcuts⟩ :=
        ih (offset + (t.length + 1)) (show tail.length < fuel by omega) (holding_reset hinit st)
      refine ⟨reader', storage', held',
        (offset + (t.length + 1), recordVerdict storage.length (held ++ t)) :: cuts,
        hlen'.trans hlen, hhold', ?_, ?_⟩
      · have hdrop : (t ++ 0#8 :: tail).drop (t.length + 1) = tail := by simp
        rw [readPush, hpush]
        cases hv : recordVerdict storage.length (held ++ t) with
        | ok record => simp [hdrop, hread]
        | error status =>
          have hstatus : status ≠ .errWouldBlock := by
            rcases recordVerdict_eq_error hv with rfl | rfl <;> decide
          simp [hdrop, hread, hstatus]
      · intro rest
        rw [hlen] at hcuts
        rw [List.append_assoc, cutsFrom_append ht, List.cons_append, cutsFrom, if_pos rfl,
          List.cons_append, Nat.add_assoc, hcuts, List.length_append, List.length_cons]
        congr 3
        omega
    · obtain ⟨r, st, hpush, hlen, hhold⟩ := recordReaderPush_open h hz
      refine ⟨r, st, held ++ input, [], hlen, hhold, ?_, ?_⟩
      · rw [readPush, hpush]
        rfl
      · intro rest
        rw [cutsFrom_append hz, List.nil_append]

/-- **Pushes** of any sizes: the outcomes are those of the whole stream. -/
theorem readPushes_cuts {held : Octets} (h : Holding storage reader held) (inputs : List Octets) :
    readPushes reader storage offset inputs =
      cutsFrom storage.length offset held inputs.flatten := by
  induction inputs generalizing offset reader storage held with
  | nil => rfl
  | cons input inputs ih =>
    obtain ⟨reader', storage', held', cuts, hlen, hhold, hread, hcuts⟩ :=
      readPush_cuts offset (Nat.lt_succ_self input.length) h
    rw [readPushes, hread, List.flatten_cons, hcuts, ← hlen]
    dsimp only
    rw [ih hhold]

/-- **The record reader splits the stream at its zeros**, however it is cut into pushes and
whatever the capacity of the storage: each piece in front of a zero gives one outcome, with
the consumed count behind that zero.  The piece behind the last zero gives none. -/
theorem record_reader_splits (storage : Octets) (inputs : List Octets) :
    readPushes recordReaderInit storage 0 inputs =
      verdicts storage.length 0 (inputs.flatten.splitOn 0#8).dropLast := by
  have hinit : Holding storage recordReaderInit [] := ⟨rfl, rfl, rfl, rfl, fun _ => ⟨rfl, rfl⟩⟩
  rw [readPushes_cuts hinit, cutsFrom_eq_verdicts (show ([] : Octets).length ≤ 0 from Nat.le_refl 0),
    ← records, records_eq_splitOn]
  rfl

example : readPushes recordReaderInit [0#8, 0#8] 0 [[7#8], [0#8, 0#8, 1#8], [2#8, 3#8, 0#8, 9#8]] =
    [(2, .ok [7#8]), (3, .error .errFormat), (7, .error .errLimit)] := by decide

end Pbns
