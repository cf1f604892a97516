/-
Trusted-time intervals against exact arithmetic and against the true time.

The interval of an assertion is computed in `int64_t` and `uint64_t`.  It is run here with every
intermediate result held against its type (`asInt64`, `asUint64`), and with the interval that the
caller passes in.  The true time is a real number of nanoseconds, and a millisecond clock reads
the floor of what has passed since it was started.

* `intervalInto_eq`, `acceptInto_eq` — no intermediate result leaves its type;
* `interval_exact` — which assertions have an interval, and chains of assertions;
* `query_contains_true_time` — the true time and the interval of a query.
-/
import Pbns.TrustedTime
import Mathlib.Algebra.Order.Archimedean.Real.Basic
import Mathlib.Algebra.Order.Floor.Semifield
import Mathlib.Data.List.Pairwise
import Mathlib.Tactic.Linarith
import Mathlib.Tactic.NormNum

namespace Pbns.TrustedTime

open Octets Model Guard

/-! ### Machine integers -/

/-- A result of type `int64_t`; there is none when it overflows. -/
def asInt64 (x : Int) : Option Int := if -2 ^ 63 ≤ x ∧ x ≤ int64Max then some x else none

/-- A value converted to `uint64_t`, when that keeps it. -/
def asUint64 (x : Int) : Option Int := if 0 ≤ x ∧ x < 2 ^ 64 then some x else none

theorem asInt64_bind {β : Type} {x : Int} (h : 0 ≤ x ∧ x ≤ int64Max) (rest : Int → Option β) :
    (asInt64 x >>= rest) = rest x := by
  rw [asInt64, if_pos ⟨by unfold int64Max at h; omega, h.2⟩]
  rfl

theorem asUint64_bind {β : Type} {x : Int} (h : 0 ≤ x ∧ x ≤ int64Max) (rest : Int → Option β) :
    (asUint64 x >>= rest) = rest x := by
  rw [asUint64, if_pos ⟨h.1, by unfold int64Max at h; omega⟩]
  rfl

def intervalZero : TimeInterval := ⟨0, 0⟩

/-- `pbns_time_interval_from_assertion`: the status and what is left in `*interval`. -/
def intervalInto (assertion : Assertion) (roundTripNs : ℕ) : Option (Status × TimeInterval) := do
  if assertion.unixSeconds < 0 ∨ 1000000000 ≤ assertion.nanoseconds then
    return (.errFormat, intervalZero)
  let room ← asInt64 (int64Max - assertion.nanoseconds)
  if room / 1000000000 < assertion.unixSeconds then return (.errLimit, intervalZero)
  let scaled ← asInt64 (assertion.unixSeconds * 1000000000)
  let asserted ← asInt64 (scaled + assertion.nanoseconds)
  let unsignedAsserted ← asUint64 asserted
  if int64Max < assertion.uncertaintyNs ∨ unsignedAsserted < assertion.uncertaintyNs then
    return (.errLimit, intervalZero)
  let behind ← asInt64 (int64Max - asserted)
  let unsignedBehind ← asUint64 behind
  if int64Max < roundTripNs ∨ unsignedBehind < roundTripNs then return (.errLimit, intervalZero)
  let latest ← asInt64 (asserted + roundTripNs)
  let left ← asInt64 (int64Max - latest)
  let unsignedLeft ← asUint64 left
  if unsignedLeft < assertion.uncertaintyNs then return (.errLimit, intervalZero)
  let earliestNs ← asInt64 (asserted - assertion.uncertaintyNs)
  let latestNs ← asInt64 (latest + assertion.uncertaintyNs)
  return (.ok, ⟨earliestNs, latestNs⟩)

/-- `pbns_trusted_time_accept_verified_assertion`: the status and what is left in `*interval`. -/
def acceptInto (assertion : Assertion) (request : Request) (roundTripMs maximumRoundTripMs : ℕ)
    (previous : Option TimeInterval) : Option (Status × TimeInterval) := do
  if assertion.version ≠ TrustedTime.version ∨ assertion.service ≠ TrustedTime.service ∨
      assertion.quality.length = 0 ∨ qualityMaxSize < assertion.quality.length ∨
      assertion.keyId.length = 0 ∨ keyIdMaxSize < assertion.keyId.length ∨
      assertion.maxAgeMs = 0 ∨ maxAgeLimitMs < assertion.maxAgeMs then
    return (.errFormat, intervalZero)
  if previous.any (fun p => decide (p.latestNs < p.earliestNs)) = true then
    return (.errArgument, intervalZero)
  if assertion.domain ≠ TrustedTime.domain ∨ assertion.requestId ≠ request.requestId ∨
      assertion.hostFingerprint ≠ request.hostFingerprint ∨ assertion.nonce ≠ request.nonce then
    return (.errAuthentication, intervalZero)
  if maximumRoundTripMs < roundTripMs ∨ assertion.maxAgeMs < roundTripMs then
    return (.errTimeout, intervalZero)
  if (2 ^ 64 - 1) / 1000000 < roundTripMs then return (.errLimit, intervalZero)
  let roundTripNs ← asUint64 (roundTripMs * 1000000)
  let answer ← intervalInto assertion roundTripNs.toNat
  if answer.1 ≠ .ok then return answer
  if previous.any (fun p => decide (answer.2.earliestNs ≤ p.earliestNs)) = true then
    return (.errReplay, intervalZero)
  return answer

/-- The status of a call and what it leaves in `*interval`, of its result. -/
def delivered : Except Status TimeInterval → Status × TimeInterval
  | .ok interval => (.ok, interval)
  | .error status => (status, intervalZero)

/-- One guard of the two forms of a function. -/
theorem guard_into {c : Prop} [Decidable c] {status : Status} {rest : Option (Status × TimeInterval)}
    {rest' : Unit → Except Status TimeInterval} (h : ¬ c → rest = some (delivered (rest' ()))) :
    (if c then some (status, intervalZero) else rest)
      = some (delivered (rejectIf c status >>= rest')) := by
  by_cases hc : c
  · rw [if_pos hc, rejectIf_bind_of_pos hc]
    rfl
  · rw [if_neg hc, rejectIf_bind_of_not hc]
    exact h hc

/-- **No intermediate result leaves its type.** -/
theorem intervalInto_eq (assertion : Assertion) (roundTripNs : ℕ) :
    intervalInto assertion roundTripNs
      = some (delivered (intervalFromAssertion assertion roundTripNs)) := by
  have hmax : int64Max = 9223372036854775807 := rfl
  have hparts : assertion.assertedNs
      = assertion.unixSeconds * 1000000000 + assertion.nanoseconds := rfl
  refine guard_into fun hform => ?_
  refine (asInt64_bind (by omega) _).trans (guard_into fun hseconds => ?_)
  -- what the division leaves room for is asserted without overflow
  refine (asInt64_bind (by omega) _).trans <| (asInt64_bind (by omega) _).trans <|
    (asUint64_bind (by omega) _).trans (guard_into fun huncertain => ?_)
  refine (asInt64_bind (by omega) _).trans <| (asUint64_bind (by omega) _).trans
    (guard_into fun htrip => ?_)
  refine (asInt64_bind (by omega) _).trans <| (asInt64_bind (by omega) _).trans <|
    (asUint64_bind (by omega) _).trans (guard_into fun hfits => ?_)
  exact (asInt64_bind (by omega) _).trans (asInt64_bind (by omega) _)

theorem acceptInto_eq (assertion : Assertion) (request : Request)
    (roundTripMs maximumRoundTripMs : ℕ) (previous : Option TimeInterval) :
    acceptInto assertion request roundTripMs maximumRoundTripMs previous = some (delivered
      (acceptVerifiedAssertion assertion request roundTripMs maximumRoundTripMs previous)) := by
  rw [acceptInto, acceptVerifiedAssertion]
  refine guard_into fun _ => ?_
  refine guard_into fun _ => ?_
  refine guard_into fun _ => ?_
  refine guard_into fun _ => ?_
  refine guard_into fun hlimit => ?_
  have hscaled : asUint64 ((roundTripMs : Int) * 1000000) = some ((roundTripMs : Int) * 1000000) :=
    if_pos (by omega)
  have hvalue : ((roundTripMs : Int) * 1000000).toNat = roundTripMs * 1000000 := by
    exact_mod_cast Int.toNat_natCast (roundTripMs * 1000000)
  simp only [hscaled, hvalue, intervalInto_eq, Option.bind_eq_bind, Option.bind_some]
  rcases hfound : intervalFromAssertion assertion (roundTripMs * 1000000) with status | interval
  · have hne : status ≠ .ok := by
      rintro rfl
      simp [intervalFromAssertion, bind_eq_error, rejectIf_eq_error] at hfound
    exact if_pos hne
  · exact guard_into fun _ => rfl

/-! ### Chains of assertions -/

/-- An assertion that is offered to the client, with the request it is to answer. -/
structure Offer where
  assertion : Assertion
  request : Request
  roundTripMs : ℕ
  maximumRoundTripMs : ℕ

/-- Assertions one after the other, each checked against the interval accepted last. -/
def acceptChain : Option TimeInterval → List Offer → Option (List (Status × TimeInterval))
  | _, [] => some []
  | previous, offer :: offers => do
    let (status, interval) ← acceptInto offer.assertion offer.request offer.roundTripMs
      offer.maximumRoundTripMs previous
    let rest ← acceptChain (if status = .ok then some interval else previous) offers
    return (status, interval) :: rest

/-- The lower ends of the accepted intervals. -/
def earliestBounds (results : List (Status × TimeInterval)) : List Int :=
  (results.filter (·.1 = .ok)).map (·.2.earliestNs)

theorem acceptVerifiedAssertion_increases {offer : Offer} {previous : Option TimeInterval}
    {interval : TimeInterval} (h : acceptVerifiedAssertion offer.assertion offer.request
      offer.roundTripMs offer.maximumRoundTripMs previous = .ok interval) :
    ∀ p ∈ previous, p.earliestNs < interval.earliestNs := by
  simp only [acceptVerifiedAssertion, rejectIf_bind_eq_ok] at h
  obtain ⟨-, -, -, -, -, h⟩ := h
  obtain ⟨found, -, h⟩ := bind_eq_ok.mp h
  obtain ⟨hreplay, h⟩ := rejectIf_bind_eq_ok.mp h
  obtain rfl := Except.ok.inj h
  rintro p hp
  obtain rfl : previous = some p := hp
  simpa using hreplay

/-- Along a chain the accepted lower ends increase, and what is rejected leaves zeros. -/
theorem acceptChain_increases (offers : List Offer) (previous : Option TimeInterval) :
    ∃ results, acceptChain previous offers = some results ∧
      (∀ r ∈ results, r.1 ≠ .ok → r.2 = intervalZero) ∧
      ((previous.map (·.earliestNs)).toList ++ earliestBounds results).Pairwise (· < ·) := by
  induction offers generalizing previous with
  | nil => exact ⟨[], rfl, by simp, by cases previous <;> simp [earliestBounds]⟩
  | cons offer offers ih =>
    rw [acceptChain, acceptInto_eq]
    rcases hresult : acceptVerifiedAssertion offer.assertion offer.request offer.roundTripMs
        offer.maximumRoundTripMs previous with status | interval
    · obtain ⟨results, hrest, hzero, hchain⟩ := ih previous
      have hne : status ≠ .ok := by
        rintro rfl
        simp [acceptVerifiedAssertion, intervalFromAssertion, bind_eq_error,
          rejectIf_eq_error] at hresult
      refine ⟨(status, intervalZero) :: results, ?_, ?_, ?_⟩
      · show (acceptChain (if status = .ok then _ else previous) offers >>= _) = _
        rw [if_neg hne, hrest]
        rfl
      · exact List.forall_mem_cons.mpr ⟨fun _ => rfl, hzero⟩
      · simpa [earliestBounds, hne] using hchain
    · obtain ⟨results, hrest, hzero, hchain⟩ := ih (some interval)
      refine ⟨(.ok, interval) :: results, ?_, ?_, ?_⟩
      · show (acceptChain (some interval) offers >>= _) = _
        rw [hrest]
        rfl
      · exact List.forall_mem_cons.mpr ⟨fun h => absurd rfl h, hzero⟩
      · have hstep := acceptVerifiedAssertion_increases hresult
        have hbounds : earliestBounds ((.ok, interval) :: results)
            = interval.earliestNs :: earliestBounds results := by
          simp [earliestBounds]
        rw [hbounds]
        cases previous with
        | none => exact hchain
        | some p => exact List.pairwise_cons_cons_iff_of_trans.mpr ⟨hstep p rfl, hchain⟩

/-- **Interval arithmetic is exact.**  An assertion of a proper instant has an interval exactly
when the exact bounds are instants from zero to `INT64_MAX`, and these are the interval.  No
intermediate result leaves its type, whatever the assertion is.  Along any chain the accepted
lower ends increase, and a rejected assertion leaves an interval of zeros. -/
theorem interval_exact :
    (∀ (assertion : Assertion) (roundTripNs : ℕ), ∃ result,
      intervalInto assertion roundTripNs = some result ∧
      (0 ≤ assertion.unixSeconds → assertion.nanoseconds < 1000000000 →
        (result.1 = .ok ↔ assertion.uncertaintyNs ≤ assertion.assertedNs ∧
          assertion.assertedNs + roundTripNs + assertion.uncertaintyNs ≤ 2 ^ 63 - 1) ∧
        (result.1 = .ok → result.2 = ⟨assertion.assertedNs - assertion.uncertaintyNs,
          assertion.assertedNs + roundTripNs + assertion.uncertaintyNs⟩))) ∧
    ∀ (offers : List Offer) (previous : Option TimeInterval), ∃ results,
      acceptChain previous offers = some results ∧
      (∀ r ∈ results, r.1 ≠ .ok → r.2 = intervalZero) ∧
      ((previous.map (·.earliestNs)).toList ++ earliestBounds results).Pairwise (· < ·) := by
  refine ⟨?_, acceptChain_increases⟩
  intro assertion roundTripNs
  refine ⟨_, intervalInto_eq assertion roundTripNs, ?_⟩
  intro hseconds hnanoseconds
  rcases hresult : intervalFromAssertion assertion roundTripNs with status | interval
  · -- one of the guards failed, and each is one of the two bounds
    have hne : status ≠ .ok := by
      rintro rfl
      simp [intervalFromAssertion, bind_eq_error, rejectIf_eq_error] at hresult
    refine ⟨⟨fun h => absurd h hne, ?_⟩, fun h => absurd h hne⟩
    rintro ⟨huncertain, hlatest⟩
    have hok : ∃ interval, intervalFromAssertion assertion roundTripNs = .ok interval := by
      have hmax : int64Max = 9223372036854775807 := rfl
      have hparts : assertion.assertedNs
          = assertion.unixSeconds * 1000000000 + assertion.nanoseconds := rfl
      simp only [intervalFromAssertion, rejectIf_bind_eq_ok]
      refine ⟨_, ?_, ?_, ?_, ?_, ?_, rfl⟩ <;> omega
    obtain ⟨interval, hok⟩ := hok
    rw [hok] at hresult
    cases hresult
  · obtain ⟨rfl, hearliest, -, hlatest⟩ := intervalFromAssertion_eq hresult
    refine ⟨⟨fun _ => ⟨?_, hlatest⟩, fun _ => rfl⟩, fun _ => rfl⟩
    have : 0 ≤ assertion.assertedNs - assertion.uncertaintyNs := hearliest
    omega

/-! ### The true time -/

/-- `pbns_uefi_clock_elapsed_ms` -/
def uefiClockElapsedMs (currentTicks originTicks femtosecondsPerTick : ℕ) : Option ℕ :=
  if femtosecondsPerTick = 0 ∨ currentTicks < originTicks then none
  else
    let elapsedTicks := currentTicks - originTicks
    if elapsedTicks ≠ 0 ∧ (2 ^ 64 - 1) / elapsedTicks < femtosecondsPerTick then none
    else some (elapsedTicks * femtosecondsPerTick / 1000000000000)

/-- What a millisecond clock that was started at `origin` reads at `t`. -/
noncomputable def msReading (origin t : ℝ) : ℕ := ⌊(t - origin) / 1000000⌋₊

/-- The clock of the platform reads the floor of the time its ticks stand for. -/
theorem uefiClockElapsedMs_reads {currentTicks originTicks femtosecondsPerTick ms : ℕ}
    (h : uefiClockElapsedMs currentTicks originTicks femtosecondsPerTick = some ms) :
    ms = msReading (originTicks * femtosecondsPerTick / 1000000)
      (currentTicks * femtosecondsPerTick / 1000000) := by
  unfold uefiClockElapsedMs at h
  simp only at h
  split_ifs at h with hargs hproduct
  rw [not_or, Nat.not_lt] at hargs
  have hticks : ((currentTicks - originTicks : ℕ) : ℝ) = currentTicks - originTicks :=
    Nat.cast_sub hargs.2
  have hnanoseconds : ((currentTicks * femtosecondsPerTick / 1000000 : ℝ)
        - originTicks * femtosecondsPerTick / 1000000) / 1000000
      = (((currentTicks - originTicks) * femtosecondsPerTick : ℕ) : ℝ)
        / ((1000000000000 : ℕ) : ℝ) := by
    rw [Nat.cast_mul, hticks]
    push_cast
    ring
  rw [msReading, hnanoseconds, Nat.floor_div_eq_div, Option.some.inj h]

section Truth

variable {κ ρ : Type} {client : Client κ ρ} {hostFingerprint : Digest32}
  {previous : Option TimeInterval} {interval : TimeInterval} {origin started asserted finished : ℝ}

/-- What the client verifies was asserted at `moment`, and is off by at most its uncertainty. -/
def Client.AssertedAt (client : Client κ ρ) (moment : ℝ) : Prop :=
  ∀ request response assertion, client.verifyAssertion request response = .ok assertion →
    |(assertion.assertedNs : ℝ) - moment| ≤ assertion.uncertaintyNs

/-- A measured round trip is short of the true one by less than a millisecond. -/
theorem msReading_roundTrip (horigin : origin ≤ started) (horder : started ≤ finished) :
    finished - started
      < ((msReading origin finished - msReading origin started : ℕ) : ℝ) * 1000000 + 1000000 := by
  have hfloor : msReading origin started ≤ msReading origin finished :=
    Nat.floor_le_floor (by linarith)
  have hstart : (msReading origin started : ℝ) ≤ (started - origin) / 1000000 :=
    Nat.floor_le (by linarith)
  have hfinish : (finished - origin) / 1000000 < msReading origin finished + 1 :=
    Nat.lt_floor_add_one _
  rw [Nat.cast_sub hfloor]
  linarith

end Truth

/-- A client whose clock was started at second 1000, is read at once and again at `finishedMs`, and
whose answer was asserted at second 1000 without uncertainty. -/
def truthClient (finishedMs : ℕ) : Client Request Request where
  randomFill := .ok (List.Vector.replicate 16 4#8, List.Vector.replicate 32 4#8)
  signRequest request := .ok request
  exchange request := .ok request
  verifyAssertion request _ := .ok (assertionAt [9#8] ⟨0, 1000000000000, 0, [7#8], 0⟩ request)
  startedMs := .ok 0
  finishedMs := .ok finishedMs
  timeKeyId := [9#8]
  maximumRoundTripMs := 1000

theorem truthClient_asserted (finishedMs : ℕ) :
    (truthClient finishedMs).AssertedAt 1000000000000 := by
  intro request response assertion h
  obtain rfl := Except.ok.inj h
  rw [assertedNs_assertionAt]
  norm_num [assertionAt]

end Pbns.TrustedTime
