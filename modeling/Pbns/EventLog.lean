/-
The measured-boot event log (`core/measured_boot.c`): a header that lists the digest
algorithms, then events whose length depends on them.

Two loops walk such a log.  `parseLog` walks a buffer to its end and reports where the last
event started; `locateEventLogEnd` is told where the last event starts and looks for its end in
memory that may go on.  Both are compared with `EventsTo`, which says that the events from one
offset on lead to a last one:

* `parseEvent2_consumes` — an event takes at least 50 octets, so both loops come to an end;
* `logLoop_eq_ok`, `locateLoop_eq_ok` — what each loop finds, in terms of `EventsTo`;
* `EventsTo.agree` — the events are the same in every input that agrees up to their end;
* `event_log_ends_agree` — locating and validating agree.
-/
import Pbns.FrameTypes
import Pbns.Cursor

namespace Pbns

open Octets Cursor

/-- `load_u16` -/
def loadU16 (input : Octets) : BitVec 16 := octetAt input 1 ++ octetAt input 0

/-- `load_u32` -/
def loadU32 (input : Octets) : BitVec 32 :=
  octetAt input 3 ++ octetAt input 2 ++ octetAt input 1 ++ octetAt input 0

/-- `pbns_log_algorithm` -/
structure LogAlgorithm where
  identifier : BitVec 16
  digestSize : BitVec 16
  deriving DecidableEq

def eventLogMaxSize : ℕ := 4 * 1024 * 1024

def algorithmMaxCount : ℕ := 16

/-- `PBNS_TPM_ALG_SHA256` -/
def tpmAlgSha256 : BitVec 16 := 0x000b#16

/-- `"Spec ID Event03"` with its terminating zero. -/
def specIdSignature : Octets :=
  [0x53, 0x70, 0x65, 0x63, 0x20, 0x49, 0x44, 0x20, 0x45, 0x76, 0x65, 0x6e, 0x74, 0x30, 0x33, 0x00]

def readU16 : Parser Octet (BitVec 16) := do
  let encoded ← take 2
  pure (loadU16 encoded)

def readU32 : Parser Octet (BitVec 32) := do
  let encoded ← take 4
  pure (loadU32 encoded)

def algorithmSize (algorithms : List LogAlgorithm) (identifier : BitVec 16) :
    Option (BitVec 16) :=
  (algorithms.find? (·.identifier = identifier)).map (·.digestSize)

def isSha256 (identifier digestSize : BitVec 16) : Bool :=
  identifier = tpmAlgSha256 && digestSize = 32#16

/-- The algorithm loop of `parse_spec_id`, with the number of algorithms still to come. -/
def parseAlgorithms : ℕ → List LogAlgorithm → Bool → Parser Octet (List LogAlgorithm × Bool)
  | 0, algorithms, foundSha256 => pure (algorithms, foundSha256)
  | left + 1, algorithms, foundSha256 => do
    let identifier ← readU16
    let digestSize ← readU16
    require (digestSize ≠ 0#16 ∧ digestSize.toNat ≤ 64
      ∧ (identifier = 0x0004#16 → digestSize = 20#16)
      ∧ (identifier = tpmAlgSha256 → digestSize = 32#16)
      ∧ (identifier = 0x000c#16 → digestSize = 48#16)
      ∧ (identifier = 0x000d#16 → digestSize = 64#16)
      ∧ algorithmSize algorithms identifier = none)
    parseAlgorithms left (algorithms ++ [⟨identifier, digestSize⟩])
      (foundSha256 || isSha256 identifier digestSize)

/-- The part of `parse_spec_id` behind the signature. -/
def specIdBody : Parser Octet (List LogAlgorithm × Bool) := do
  let fixed ← take 8
  require (octetAt fixed 5 = 2#8 ∧ (octetAt fixed 7 = 1#8 ∨ octetAt fixed 7 = 2#8))
  let count ← readU32
  require (count ≠ 0#32 ∧ count.toNat ≤ algorithmMaxCount)
  let algorithms ← parseAlgorithms count.toNat [] false
  let vendorSize ← take 1
  let _ ← take (octetAt vendorSize 0).toNat
  pure algorithms

/-- The algorithms of a specification event, and whether SHA-256 is one of them. -/
def parseSpecId (event : Octets) : Option (List LogAlgorithm × Bool) :=
  if event.length < 29 ∨ event.take 16 ≠ specIdSignature then none
  else
    match specIdBody event 16 with
    | none => none
    | some (algorithms, offset) => if offset ≠ event.length then none else some algorithms

/-- The digest loop of `parse_event2`: the number of digests still to come, the identifiers
seen, and whether one was SHA-256. -/
def parseDigests (algorithms : List LogAlgorithm) :
    ℕ → List (BitVec 16) → Bool → Parser Octet Bool
  | 0, _, foundSha256 => pure foundSha256
  | left + 1, seen, foundSha256 => do
    let identifier ← readU16
    require (identifier ∉ seen)
    let digestSize ← ofOption (algorithmSize algorithms identifier)
    let _ ← take digestSize.toNat
    parseDigests algorithms left (seen ++ [identifier])
      (foundSha256 || isSha256 identifier digestSize)

def parseEvent2 (algorithms : List LogAlgorithm) : Parser Octet Unit := do
  let eventHeader ← take 12
  let digestCount := loadU32 (eventHeader.drop 8)
  require ((loadU32 eventHeader).toNat < 24 ∧ digestCount ≠ 0#32
    ∧ digestCount.toNat ≤ algorithmMaxCount)
  let foundSha256 ← parseDigests algorithms digestCount.toNat [] false
  require (foundSha256 = true)
  let eventSize ← readU32
  let _ ← take eventSize.toNat
  pure ()

/-- The octets `parse_header` reads. -/
def headerBody : Parser Octet (List LogAlgorithm × Bool) := do
  let legacy ← take 32
  require (loadU32 legacy = 0#32 ∧ loadU32 (legacy.drop 4) = 3#32)
  let spec ← take (loadU32 (legacy.drop 28)).toNat
  ofOption (parseSpecId spec)

/-- The algorithms of a log and the offset of its first event. -/
def parseHeader (eventLog : Octets) : Except Status (List LogAlgorithm × ℕ) :=
  match headerBody eventLog 0 with
  | none => .error .errFormat
  | some ((algorithms, sha256Bank), offset) =>
    if eventLog.length < offset then .error .errFormat
    else if sha256Bank then .ok (algorithms, offset)
    else .error .errUnsupported

/-- `pbns_measured_boot_summary` -/
structure MeasuredBootSummary where
  eventCount : ℕ
  lastEntryOffset : ℕ
  sha256Bank : Bool
  deriving DecidableEq

/-- The loop of `parse_log`; `none` when it is still going after `fuel` rounds. -/
def logLoop (algorithms : List LogAlgorithm) (eventLog : Octets) :
    ℕ → ℕ → MeasuredBootSummary → Option (Except Status MeasuredBootSummary)
  | 0, _, _ => none
  | fuel + 1, offset, parsed =>
    if offset < eventLog.length then
      match parseEvent2 algorithms eventLog offset with
      | none => some (.error .errFormat)
      | some ((), next) =>
        logLoop algorithms eventLog fuel next
          { parsed with lastEntryOffset := offset, eventCount := parsed.eventCount + 1 }
    else some (if 2 ≤ parsed.eventCount then .ok parsed else .error .errFormat)

def parseLog (fuel : ℕ) (eventLog : Octets) : Option (Except Status MeasuredBootSummary) :=
  if eventLog.length = 0 then some (.error .errArgument)
  else if eventLogMaxSize < eventLog.length then some (.error .errLimit)
  else
    match parseHeader eventLog with
    | .error status => some (.error status)
    | .ok (algorithms, offset) => logLoop algorithms eventLog fuel offset ⟨1, 0, true⟩

def validateEventLog (fuel : ℕ) (eventLog : Octets) :
    Option (Except Status MeasuredBootSummary) :=
  parseLog fuel eventLog

/-- The loop of `pbns_measured_boot_locate_event_log_end`. -/
def locateLoop (algorithms : List LogAlgorithm) (boundedLog : Octets) (lastEntryOffset : ℕ) :
    ℕ → ℕ → Option (Except Status ℕ)
  | 0, _ => none
  | fuel + 1, offset =>
    if offset ≤ lastEntryOffset then
      match parseEvent2 algorithms boundedLog offset with
      | none => some (.error .errFormat)
      | some ((), next) =>
        if offset = lastEntryOffset then some (.ok next)
        else if lastEntryOffset < offset then some (.error .errFormat)
        else locateLoop algorithms boundedLog lastEntryOffset fuel next
    else some (.error .errFormat)

def locateEventLogEnd (fuel : ℕ) (boundedLog : Octets) (lastEntryOffset : ℕ) :
    Option (Except Status ℕ) :=
  if boundedLog.length = 0 ∨ eventLogMaxSize < boundedLog.length then some (.error .errArgument)
  else
    match parseHeader boundedLog with
    | .error status =>
      some (.error (if status = .errUnsupported then status else .errFormat))
    | .ok (algorithms, offset) =>
      if lastEntryOffset < offset then some (.error .errFormat)
      else locateLoop algorithms boundedLog lastEntryOffset fuel offset

/-! ### The parsers look no further than they go -/

theorem local_readU16 : Local readU16 :=
  (local_take 2).bind fun _ => local_pure _

theorem local_readU32 : Local readU32 :=
  (local_take 4).bind fun _ => local_pure _

theorem local_parseDigests (algorithms : List LogAlgorithm) (left : ℕ) :
    ∀ (seen : List (BitVec 16)) (found : Bool), Local (parseDigests algorithms left seen found) := by
  induction left with
  | zero => intro seen found; exact local_pure _
  | succ left ih =>
    intro seen found
    refine local_readU16.bind fun identifier => ?_
    refine (local_require _).bind fun _ => (local_ofOption _).bind fun digestSize => ?_
    exact (local_take _).bind fun _ => ih _ _

theorem local_parseEvent2 (algorithms : List LogAlgorithm) : Local (parseEvent2 algorithms) := by
  refine (local_take 12).bind fun eventHeader => (local_require _).bind fun _ => ?_
  refine (local_parseDigests _ _ _ _).bind fun found => (local_require _).bind fun _ => ?_
  exact local_readU32.bind fun _ => (local_take _).bind fun _ => local_pure _

theorem local_headerBody : Local headerBody := by
  refine (local_take 32).bind fun legacy => (local_require _).bind fun _ => ?_
  exact (local_take _).bind fun spec => local_ofOption _

section Consumes

variable {input : Octets} {offset stop : ℕ}

theorem readU16_stop {value : BitVec 16} (h : readU16 input offset = some (value, stop)) :
    stop = offset + 2 := by
  obtain ⟨encoded, next, htake, hpure⟩ := bind_eq_some.mp h
  obtain ⟨-, -, rfl⟩ := take_eq_some.mp htake
  exact (pure_eq_some.mp hpure).2.symm

theorem readU32_stop {value : BitVec 32} (h : readU32 input offset = some (value, stop)) :
    stop = offset + 4 := by
  obtain ⟨encoded, next, htake, hpure⟩ := bind_eq_some.mp h
  obtain ⟨-, -, rfl⟩ := take_eq_some.mp htake
  exact (pure_eq_some.mp hpure).2.symm

variable {algorithms : List LogAlgorithm}

/-- A SHA-256 digest and its identifier take 34 octets. -/
theorem parseDigests_consumes (left : ℕ) :
    ∀ {seen : List (BitVec 16)} {found : Bool} {offset : ℕ},
      parseDigests algorithms left seen found input offset = some (true, stop) →
      found = true ∨ offset + 34 ≤ stop := by
  induction left with
  | zero =>
    intro seen found offset h
    exact .inl (pure_eq_some.mp h).1
  | succ left ih =>
    intro seen found offset h
    rw [parseDigests] at h
    obtain ⟨identifier, o₁, hread, h⟩ := bind_eq_some.mp h
    obtain ⟨_, o₂, hseen, h⟩ := bind_eq_some.mp h
    obtain ⟨digestSize, o₃, hsize, h⟩ := bind_eq_some.mp h
    obtain ⟨digest, o₄, htake, hrest⟩ := bind_eq_some.mp h
    have hread := readU16_stop hread
    obtain ⟨-, rfl⟩ := require_eq_some.mp hseen
    obtain ⟨-, rfl⟩ := ofOption_eq_some.mp hsize
    obtain ⟨-, -, rfl⟩ := take_eq_some.mp htake
    have hforward := (local_parseDigests _ _ _ _).forward hrest
    -- the digest just read may be the SHA-256 one, or it is among the rest
    rcases ih hrest with hfound | hlater
    · rw [Bool.or_eq_true] at hfound
      rcases hfound with hbefore | hhere
      · exact .inl hbefore
      · simp only [isSha256, Bool.and_eq_true, decide_eq_true_eq] at hhere
        rw [hhere.2] at hforward
        exact .inr (by simp at hforward; omega)
    · exact .inr (by omega)

theorem parseEvent2_consumes (h : parseEvent2 algorithms input offset = some ((), stop)) : offset + 50 ≤ stop := by
  rw [parseEvent2] at h
  obtain ⟨eventHeader, o₁, hheader, h⟩ := bind_eq_some.mp h
  obtain ⟨_, o₂, hrequire, h⟩ := bind_eq_some.mp h
  obtain ⟨found, o₃, hdigests, h⟩ := bind_eq_some.mp h
  obtain ⟨_, o₄, hfound, h⟩ := bind_eq_some.mp h
  obtain ⟨eventSize, o₅, hsize, h⟩ := bind_eq_some.mp h
  obtain ⟨event, o₆, htake, hpure⟩ := bind_eq_some.mp h
  obtain ⟨-, -, rfl⟩ := take_eq_some.mp hheader
  obtain ⟨-, rfl⟩ := require_eq_some.mp hrequire
  obtain ⟨rfl, rfl⟩ := require_eq_some.mp hfound
  have hsize := readU32_stop hsize
  obtain ⟨-, -, rfl⟩ := take_eq_some.mp htake
  obtain ⟨-, rfl⟩ := pure_eq_some.mp hpure
  rcases parseDigests_consumes _ hdigests with hnone | hdigest
  · simp at hnone
  · omega

theorem parseEvent2_within (h : parseEvent2 algorithms input offset = some ((), stop)) : stop ≤ input.length := by
  -- the first step of an event already stays within the input
  obtain ⟨eventHeader, next, hheader, hrest⟩ := bind_eq_some.mp h
  obtain ⟨hle, -, rfl⟩ := take_eq_some.mp hheader
  refine (local_parseEvent2 algorithms).within h ?_
  omega

end Consumes

/-! ### Both loops come to an end -/

/-- A round that reads an event leaves enough rounds for the rest. -/
theorem rounds_left {fuel offset next length : ℕ} (hstep : offset + 50 ≤ next)
    (hnext : next ≤ length) (h : (length - offset) / 50 < fuel + 1) :
    (length - next) / 50 < fuel := by
  omega

theorem logLoop_terminates (algorithms : List LogAlgorithm) (eventLog : Octets) (fuel : ℕ) :
    ∀ (offset : ℕ) (parsed : MeasuredBootSummary), (eventLog.length - offset) / 50 < fuel →
      logLoop algorithms eventLog fuel offset parsed ≠ none := by
  induction fuel with
  | zero =>
    intro offset parsed h
    exact absurd h (Nat.not_lt_zero _)
  | succ fuel ih =>
    intro offset parsed h
    rw [logLoop]
    split
    · cases hevent : parseEvent2 algorithms eventLog offset with
      | none => simp
      | some r =>
        exact ih _ _ (rounds_left (parseEvent2_consumes hevent) (parseEvent2_within hevent) h)
    · simp

theorem locateLoop_terminates (algorithms : List LogAlgorithm) (boundedLog : Octets)
    (lastEntryOffset fuel : ℕ) :
    ∀ offset : ℕ, (boundedLog.length - offset) / 50 < fuel →
      locateLoop algorithms boundedLog lastEntryOffset fuel offset ≠ none := by
  induction fuel with
  | zero =>
    intro offset h
    exact absurd h (Nat.not_lt_zero _)
  | succ fuel ih =>
    intro offset h
    rw [locateLoop]
    split
    · cases hevent : parseEvent2 algorithms boundedLog offset with
      | none => simp
      | some r =>
        dsimp only
        split
        · simp
        split
        · simp
        · exact ih _ (rounds_left (parseEvent2_consumes hevent) (parseEvent2_within hevent) h)
    · simp

/-! ### What both loops look for -/

/-- From `offset` on there are one or more events, the last of which starts at `last` and ends
at `stop`. -/
inductive EventsTo (algorithms : List LogAlgorithm) (input : Octets) (last stop : ℕ) : ℕ → Prop
  | one : parseEvent2 algorithms input last = some ((), stop) →
    EventsTo algorithms input last stop last
  | more {offset next : ℕ} : parseEvent2 algorithms input offset = some ((), next) →
    EventsTo algorithms input last stop next → EventsTo algorithms input last stop offset

section EventsTo

variable {algorithms : List LogAlgorithm} {input input' : Octets} {last stop offset : ℕ}

theorem EventsTo.bounds (h : EventsTo algorithms input last stop offset) :
    offset ≤ last ∧ last + 50 ≤ stop ∧ stop ≤ input.length := by
  induction h with
  | one hevent => exact ⟨le_rfl, parseEvent2_consumes hevent, parseEvent2_within hevent⟩
  | more hevent _ ih =>
    have := parseEvent2_consumes hevent
    exact ⟨by omega, ih.2⟩

variable (h : EventsTo algorithms input last stop offset)

include h

theorem EventsTo.agree (hlen : stop ≤ input'.length) (heq : input'.take stop = input.take stop) :
    EventsTo algorithms input' last stop offset := by
  induction h with
  | one hevent => exact .one ((local_parseEvent2 _).agree hevent hlen heq)
  | more hevent hrest ih =>
    have hle := hrest.bounds
    refine .more ((local_parseEvent2 _).agree hevent ?_ (take_agree ?_ heq)) ih
    · omega
    · omega

omit h in
theorem logLoop_eq_ok {fuel : ℕ} :
    ∀ {offset : ℕ} {parsed summary : MeasuredBootSummary},
      logLoop algorithms input fuel offset parsed = some (.ok summary) → offset ≤ input.length →
      (offset = input.length ∧ summary = parsed ∧ 2 ≤ parsed.eventCount)
        ∨ EventsTo algorithms input summary.lastEntryOffset input.length offset := by
  induction fuel with
  | zero =>
    intro offset parsed summary h
    exact absurd h (by simp [logLoop])
  | succ fuel ih =>
    intro offset parsed summary h hle
    rw [logLoop] at h
    by_cases hend : offset < input.length
    · rw [if_pos hend] at h
      cases hevent : parseEvent2 algorithms input offset with
      | none =>
        rw [hevent] at h
        simp at h
      | some r =>
        rw [hevent] at h
        -- either this was the last event or the last one is further on
        rcases ih h (parseEvent2_within hevent) with ⟨hstop, hsummary, -⟩ | hrest
        · subst hsummary
          exact .inr (.one (hstop ▸ hevent))
        · exact .inr (.more hevent hrest)
    · rw [if_neg hend] at h
      by_cases hcount : 2 ≤ parsed.eventCount
      · rw [if_pos hcount] at h
        exact .inl ⟨by omega, by simpa using h.symm, hcount⟩
      · rw [if_neg hcount] at h
        simp at h

theorem logLoop_of_eventsTo (hstop : stop = input.length) :
    ∀ {fuel : ℕ} {parsed : MeasuredBootSummary}, 1 ≤ parsed.eventCount →
      (input.length - offset) / 50 < fuel →
      ∃ summary, logLoop algorithms input fuel offset parsed = some (.ok summary)
        ∧ summary.lastEntryOffset = last := by
  induction h with
  | one hevent =>
    intro fuel parsed hcount hfuel
    have hstep := parseEvent2_consumes hevent
    obtain ⟨fuel, rfl⟩ : ∃ n, fuel = n + 2 := ⟨fuel - 2, by omega⟩
    refine ⟨{ parsed with lastEntryOffset := last, eventCount := parsed.eventCount + 1 }, ?_, rfl⟩
    rw [logLoop, if_pos (by omega), hevent]
    dsimp only
    rw [logLoop, if_neg (by omega), if_pos]
    exact Nat.succ_le_succ hcount
  | more hevent hrest ih =>
    intro fuel parsed hcount hfuel
    have hstep := parseEvent2_consumes hevent
    have hnext := parseEvent2_within hevent
    obtain ⟨fuel, rfl⟩ : ∃ n, fuel = n + 1 := ⟨fuel - 1, by omega⟩
    rw [logLoop, if_pos (by omega), hevent]
    exact ih (Nat.le_add_left _ _) (rounds_left hstep hnext hfuel)

omit h in
theorem locateLoop_eq_ok {fuel : ℕ} :
    ∀ {offset : ℕ}, locateLoop algorithms input last fuel offset = some (.ok stop) →
      EventsTo algorithms input last stop offset := by
  induction fuel with
  | zero =>
    intro offset h
    exact absurd h (by simp [locateLoop])
  | succ fuel ih =>
    intro offset h
    rw [locateLoop] at h
    by_cases hle : offset ≤ last
    · rw [if_pos hle] at h
      cases hevent : parseEvent2 algorithms input offset with
      | none =>
        rw [hevent] at h
        simp at h
      | some r =>
        rw [hevent] at h
        dsimp only at h
        by_cases hlast : offset = last
        · rw [if_pos hlast] at h
          obtain rfl : r.2 = stop := by simpa using h
          subst hlast
          exact .one hevent
        · rw [if_neg hlast, if_neg (by omega)] at h
          exact .more hevent (ih h)
    · rw [if_neg hle] at h
      simp at h

theorem locateLoop_of_eventsTo :
    ∀ {fuel : ℕ}, (input.length - offset) / 50 < fuel →
      locateLoop algorithms input last fuel offset = some (.ok stop) := by
  induction h with
  | one hevent =>
    intro fuel hfuel
    obtain ⟨fuel, rfl⟩ : ∃ n, fuel = n + 1 := ⟨fuel - 1, by omega⟩
    rw [locateLoop, if_pos le_rfl, hevent]
    exact if_pos rfl
  | more hevent hrest ih =>
    intro fuel hfuel
    have hstep := parseEvent2_consumes hevent
    have hnext := hrest.bounds.1
    obtain ⟨fuel, rfl⟩ : ∃ n, fuel = n + 1 := ⟨fuel - 1, by omega⟩
    rw [locateLoop, if_pos (by omega), hevent]
    dsimp only
    rw [if_neg (by omega), if_neg (by omega)]
    exact ih (rounds_left hstep (parseEvent2_within hevent) hfuel)

end EventsTo

/-! ### Locating and validating -/

section Ends

variable {input input' : Octets} {algorithms : List LogAlgorithm} {offset : ℕ}

theorem parseHeader_eq_ok : parseHeader input = .ok (algorithms, offset)
    ↔ headerBody input 0 = some ((algorithms, true), offset) := by
  rw [parseHeader]
  cases hbody : headerBody input 0 with
  | none => simp
  | some r =>
    obtain ⟨⟨algs, bank⟩, stop⟩ := r
    have hwithin := local_headerBody.within hbody (Nat.zero_le _)
    dsimp only
    rw [if_neg (Nat.not_lt.mpr hwithin)]
    cases bank <;> simp

theorem parseHeader_agree (h : parseHeader input = .ok (algorithms, offset))
    (hlen : offset ≤ input'.length) (heq : input'.take offset = input.take offset) :
    parseHeader input' = .ok (algorithms, offset) :=
  parseHeader_eq_ok.mpr (local_headerBody.agree (parseHeader_eq_ok.mp h) hlen heq)

variable {fuel last : ℕ}

/-- A log validates exactly when its events lead to its end. -/
theorem validateEventLog_eq_ok {summary : MeasuredBootSummary}
    (h : validateEventLog fuel input = some (.ok summary)) :
    input.length ≤ eventLogMaxSize ∧ ∃ algorithms offset,
      parseHeader input = .ok (algorithms, offset)
        ∧ EventsTo algorithms input summary.lastEntryOffset input.length offset := by
  rw [validateEventLog, parseLog] at h
  by_cases hempty : input.length = 0
  · rw [if_pos hempty] at h
    simp at h
  rw [if_neg hempty] at h
  by_cases hmax : eventLogMaxSize < input.length
  · rw [if_pos hmax] at h
    simp at h
  rw [if_neg hmax] at h
  cases hheader : parseHeader input with
  | error status =>
    rw [hheader] at h
    simp at h
  | ok r =>
    obtain ⟨algorithms, offset⟩ := r
    rw [hheader] at h
    have hwithin := local_headerBody.within (parseHeader_eq_ok.mp hheader) (Nat.zero_le _)
    rcases logLoop_eq_ok h hwithin with ⟨-, -, hcount⟩ | hevents
    · simp at hcount
    · exact ⟨Nat.le_of_not_lt hmax, algorithms, offset, rfl, hevents⟩

theorem validateEventLog_of_eventsTo (hmax : input.length ≤ eventLogMaxSize)
    (hheader : parseHeader input = .ok (algorithms, offset))
    (hevents : EventsTo algorithms input last input.length offset)
    (hfuel : input.length / 50 < fuel) :
    ∃ summary, validateEventLog fuel input = some (.ok summary)
      ∧ summary.lastEntryOffset = last := by
  have hbounds := hevents.bounds
  rw [validateEventLog, parseLog, if_neg (by omega), if_neg (by omega), hheader]
  refine logLoop_of_eventsTo hevents rfl le_rfl (lt_of_le_of_lt ?_ hfuel)
  exact Nat.div_le_div_right (Nat.sub_le _ _)

theorem locateEventLogEnd_eq_ok {stop : ℕ} (h : locateEventLogEnd fuel input last = some (.ok stop)) :
    input.length ≤ eventLogMaxSize ∧ ∃ algorithms offset,
      parseHeader input = .ok (algorithms, offset)
        ∧ EventsTo algorithms input last stop offset := by
  rw [locateEventLogEnd] at h
  by_cases hsize : input.length = 0 ∨ eventLogMaxSize < input.length
  · rw [if_pos hsize] at h
    simp at h
  rw [if_neg hsize] at h
  cases hheader : parseHeader input with
  | error status =>
    rw [hheader] at h
    simp at h
  | ok r =>
    obtain ⟨algorithms, offset⟩ := r
    rw [hheader] at h
    dsimp only at h
    by_cases hbefore : last < offset
    · rw [if_pos hbefore] at h
      simp at h
    · rw [if_neg hbefore] at h
      exact ⟨by omega, algorithms, offset, rfl, locateLoop_eq_ok h⟩

theorem locateEventLogEnd_of_eventsTo {stop : ℕ} (hmax : input.length ≤ eventLogMaxSize)
    (hheader : parseHeader input = .ok (algorithms, offset))
    (hevents : EventsTo algorithms input last stop offset) (hfuel : input.length / 50 < fuel) :
    locateEventLogEnd fuel input last = some (.ok stop) := by
  have hbounds := hevents.bounds
  rw [locateEventLogEnd, if_neg (by omega), hheader]
  dsimp only
  rw [if_neg (by omega)]
  refine locateLoop_of_eventsTo hevents (lt_of_le_of_lt ?_ hfuel)
  exact Nat.div_le_div_right (Nat.sub_le _ _)

/-- The end of a validated log is found behind any further octets. -/
theorem locate_of_validate {log trailing : Octets} {summary : MeasuredBootSummary} {fuel' : ℕ}
    (h : validateEventLog fuel log = some (.ok summary))
    (hmax : (log ++ trailing).length ≤ eventLogMaxSize)
    (hfuel : (log ++ trailing).length / 50 < fuel') :
    locateEventLogEnd fuel' (log ++ trailing) summary.lastEntryOffset = some (.ok log.length) := by
  obtain ⟨-, algorithms, offset, hheader, hevents⟩ := validateEventLog_eq_ok h
  have hbounds := hevents.bounds
  have hsame (n : ℕ) (hn : n ≤ log.length) : (log ++ trailing).take n = log.take n :=
    List.take_append_of_le_length hn
  have hlen : log.length ≤ (log ++ trailing).length := by simp
  refine locateEventLogEnd_of_eventsTo hmax ?_ (hevents.agree hlen (hsame _ le_rfl)) hfuel
  exact parseHeader_agree hheader (by omega) (hsame _ (by omega))

end Ends

/-- Validating and locating find the same boundaries: a validated log is located, whatever
follows it; what is located validates, and it is the only front of the memory that does with
that last entry.  Both loops end on every input, since an event takes at least 50 octets. -/
theorem event_log_ends_agree :
    (∀ (fuel : ℕ) (log : Octets) (summary : MeasuredBootSummary) (trailing : Octets),
      validateEventLog fuel log = some (.ok summary) →
      (log ++ trailing).length ≤ eventLogMaxSize →
      ∀ fuel', (log ++ trailing).length / 50 < fuel' →
        locateEventLogEnd fuel' (log ++ trailing) summary.lastEntryOffset
          = some (.ok log.length))
    ∧ (∀ (fuel : ℕ) (bytes : Octets) (last n : ℕ),
      locateEventLogEnd fuel bytes last = some (.ok n) →
      n ≤ bytes.length
        ∧ (∀ fuel', n / 50 < fuel' → ∃ summary,
            validateEventLog fuel' (bytes.take n) = some (.ok summary)
              ∧ summary.lastEntryOffset = last)
        ∧ ∀ m ≤ bytes.length, ∀ fuel' summary,
            validateEventLog fuel' (bytes.take m) = some (.ok summary) →
            summary.lastEntryOffset = last → m = n)
    ∧ (∀ (algorithms : List LogAlgorithm) (input : Octets) (offset next : ℕ),
      parseEvent2 algorithms input offset = some ((), next) →
      offset + 50 ≤ next ∧ next ≤ input.length)
    ∧ (∀ (fuel : ℕ) (input : Octets) (last : ℕ), input.length / 50 < fuel →
      validateEventLog fuel input ≠ none ∧ locateEventLogEnd fuel input last ≠ none) := by
  refine ⟨?_, ?_, ?_, ?_⟩
  · intro fuel log summary trailing h hmax fuel' hfuel
    exact locate_of_validate h hmax hfuel
  · intro fuel bytes last n h
    obtain ⟨hmax, algorithms, offset, hheader, hevents⟩ := locateEventLogEnd_eq_ok h
    have hbounds := hevents.bounds
    have hlen : (bytes.take n).length = n := List.length_take_of_le hbounds.2.2
    have hsame (k : ℕ) (hk : k ≤ n) : (bytes.take n).take k = bytes.take k := by
      rw [List.take_take, Nat.min_eq_left hk]
    refine ⟨hbounds.2.2, ?_, ?_⟩
    · intro fuel' hfuel
      have hevents' := hevents.agree hlen.ge (hsame n le_rfl)
      refine validateEventLog_of_eventsTo (by omega)
        (parseHeader_agree hheader (by omega) (hsame offset (by omega))) ?_ (by rwa [hlen])
      rwa [hlen]
    · intro m hm fuel' summary hvalid hlast
      -- locate the end of the shorter log in the whole memory, and compare
      have hfull : bytes.take m ++ bytes.drop m = bytes := List.take_append_drop m bytes
      have hwhole : (bytes.take m ++ bytes.drop m).length ≤ eventLogMaxSize := by rwa [hfull]
      have hm' := locate_of_validate hvalid hwhole (Nat.lt_succ_self _)
      rw [hfull, hlast, List.length_take_of_le hm] at hm'
      obtain ⟨-, algorithms', offset', hheader', hevents'⟩ := locateEventLogEnd_eq_ok hm'
      obtain ⟨rfl, rfl⟩ : algorithms = algorithms' ∧ offset = offset' := by
        rw [hheader] at hheader'
        simpa using hheader'
      have hloop := locateLoop_of_eventsTo hevents (Nat.lt_succ_self _)
      have hloop' := locateLoop_of_eventsTo hevents' (Nat.lt_succ_self _)
      rw [hloop] at hloop'
      simpa using hloop'.symm
  · intro algorithms input offset next h
    exact ⟨parseEvent2_consumes h, parseEvent2_within h⟩
  · intro fuel input last hfuel
    have hrounds (offset : ℕ) : (input.length - offset) / 50 < fuel :=
      lt_of_le_of_lt (Nat.div_le_div_right (Nat.sub_le _ _)) hfuel
    constructor
    · rw [validateEventLog, parseLog]
      split
      · simp
      split
      · simp
      split
      · simp
      · exact logLoop_terminates _ _ _ _ _ (hrounds _)
    · rw [locateEventLogEnd]
      split
      · simp
      split
      · simp
      split
      · simp
      · exact locateLoop_terminates _ _ _ _ _ (hrounds _)

/-- A log with one algorithm and one event. -/
def sampleEventLog : Octets :=
  List.replicate 4 0x00 ++ [0x03] ++ List.replicate 23 0x00 ++ [0x21, 0x00, 0x00, 0x00]
    ++ specIdSignature ++ [0x00, 0x00, 0x00, 0x00, 0x00, 0x02, 0x00, 0x02]
    ++ [0x01, 0x00, 0x00, 0x00, 0x0b, 0x00, 0x20, 0x00, 0x00]
    ++ List.replicate 8 0x00 ++ [0x01, 0x00, 0x00, 0x00, 0x0b, 0x00] ++ List.replicate 36 0x00

example : validateEventLog 3 sampleEventLog = some (.ok ⟨2, 65, true⟩) := by decide +kernel

example : locateEventLogEnd 3 (sampleEventLog ++ [0xff, 0xff]) 65 = some (.ok 115) := by
  decide +kernel

end Pbns
