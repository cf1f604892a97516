/-
The launcher (`src/core/launcher.c`): the normal image, and the recovery image when that one fails.

The operations are arbitrary, and `LauncherOps.traced` lists their calls with what they gave.

* `attempt_calls` — the calls for one target;
* **`launcher_falls_back_once`** — the calls of a run, and what it returns.
-/
import Pbns.FrameTypes

namespace Pbns.Launcher

def maxDevicePathSize : ℕ := 4096

/-- `pbns_launcher_target` -/
inductive Target
  | normal
  | recovery
  deriving DecidableEq

/-- `pbns_launcher_stage` -/
inductive Stage
  | none
  | readConfig
  | validateConfig
  | loadNormal
  | startNormal
  | loadRecovery
  | startRecovery
  deriving DecidableEq

/-- `pbns_launcher_outcome` -/
inductive Outcome
  | failed
  | normalTransferred
  | recoveryTransferred
  deriving DecidableEq

/-- `pbns_launcher_config`; a path without octets has the pointer `NULL`. -/
structure Config where
  normalBootOption : BitVec 16
  recoveryDevicePath : Option Octets
  recoveryDevicePathLen : ℕ
  selfReference : Bool
  deriving DecidableEq

/-- `pbns_launcher_result` -/
structure Result where
  outcome : Outcome
  stage : Stage
  originalStage : Stage
  originalPlatformStatus : BitVec 64
  recoveryPlatformStatus : BitVec 64
  deriving DecidableEq

/-- `pbns_launcher_ops` on a state `σ`, with images of type `ι`; no image is `NULL`.  An operation
gives what stands in its output arguments when it returns. -/
structure LauncherOps (σ ι : Type) where
  readConfig : σ → (Status × Config × BitVec 64) × σ
  load : Target → Config → σ → (Status × Option ι × BitVec 64) × σ
  start : Target → ι → σ → (Status × Bool × BitVec 64) × σ
  recordFailure : Stage → BitVec 64 → σ → σ
  unload : Target → ι → σ → σ

/-- `config_valid` -/
def configValid (config : Config) : Bool :=
  !(config.selfReference || config.recoveryDevicePath.isNone ||
    config.recoveryDevicePathLen = 0 || decide (maxDevicePathSize < config.recoveryDevicePathLen))

def Target.loadStage : Target → Stage
  | .normal => .loadNormal
  | .recovery => .loadRecovery

def Target.startStage : Target → Stage
  | .normal => .startNormal
  | .recovery => .startRecovery

def Target.outcome : Target → Outcome
  | .normal => .normalTransferred
  | .recovery => .recoveryTransferred

section Run

variable {σ ι : Type} (ops : LauncherOps σ ι) (unexpectedReturnStatus : BitVec 64)

/-- What a failure is reported as; success without an image, or of an image that came back, has the
status given for it. -/
def report (status : Status) (platformStatus : BitVec 64) : Status × BitVec 64 :=
  if status = .ok then (.errState, unexpectedReturnStatus) else (status, platformStatus)

/-- The load and the start of a target, which `pbns_launcher_run` has twice.  There is nothing to
report when control was transferred, else the stage, the status and the platform status of the
failure; those of the recovery image are reported without the status. -/
def attempt (target : Target) (config : Config) (w : σ) :
    Option (Stage × Status × BitVec 64) × σ :=
  let ((status, image, platformStatus), w) := ops.load target config w
  match image with
  | none => (some (target.loadStage, report unexpectedReturnStatus status platformStatus), w)
  | some image =>
    if status ≠ .ok then
      (some (target.loadStage, status, platformStatus), ops.unload target image w)
    else
      let ((status, returned, platformStatus), w) := ops.start target image w
      if status = .ok ∧ returned = false then (none, w)
      else
        (some (target.startStage, report unexpectedReturnStatus status platformStatus),
          ops.unload target image w)

/-- `pbns_launcher_run` with valid arguments. -/
def launcherRun (w : σ) : (Status × Result) × σ :=
  let ((status, config, platformStatus), w) := ops.readConfig w
  if status ≠ .ok then
    ((status, ⟨.failed, .readConfig, .readConfig, platformStatus, 0#64⟩), w)
  else if configValid config = false then
    ((if config.selfReference then .errState else .errFormat,
      ⟨.failed, .validateConfig, .validateConfig, 0#64, 0#64⟩), w)
  else
    match attempt ops unexpectedReturnStatus .normal config w with
    | (none, w) => ((.ok, ⟨.normalTransferred, .none, .none, 0#64, 0#64⟩), w)
    | (some (originalStage, originalStatus, platformStatus), w) =>
      let w := ops.recordFailure originalStage platformStatus w
      match attempt ops unexpectedReturnStatus .recovery config w with
      | (none, w) =>
        ((.ok, ⟨.recoveryTransferred, .none, originalStage, platformStatus, 0#64⟩), w)
      | (some (stage, _, recoveryPlatformStatus), w) =>
        ((originalStatus,
          ⟨.failed, stage, originalStage, platformStatus, recoveryPlatformStatus⟩), w)

end Run

/-! ### The calls of a run -/

/-- A call of an operation, with what it gave. -/
inductive Call (ι : Type)
  | readConfig (status : Status) (config : Config) (platformStatus : BitVec 64)
  | load (target : Target) (status : Status) (image : Option ι) (platformStatus : BitVec 64)
  | start (target : Target) (image : ι) (status : Status) (returned : Bool)
      (platformStatus : BitVec 64)
  | recordFailure (stage : Stage) (platformStatus : BitVec 64)
  | unload (target : Target) (image : ι)
  deriving DecidableEq

/-- The operations, keeping the list of their calls. -/
def LauncherOps.traced {σ ι : Type} (ops : LauncherOps σ ι) : LauncherOps (σ × List (Call ι)) ι where
  readConfig w :=
    let (r, s) := ops.readConfig w.1
    (r, s, w.2 ++ [.readConfig r.1 r.2.1 r.2.2])
  load target config w :=
    let (r, s) := ops.load target config w.1
    (r, s, w.2 ++ [.load target r.1 r.2.1 r.2.2])
  start target image w :=
    let (r, s) := ops.start target image w.1
    (r, s, w.2 ++ [.start target image r.1 r.2.1 r.2.2])
  recordFailure stage platformStatus w :=
    (ops.recordFailure stage platformStatus w.1, w.2 ++ [.recordFailure stage platformStatus])
  unload target image w := (ops.unload target image w.1, w.2 ++ [.unload target image])

namespace Call

variable {ι : Type}

/-- The configuration was accepted. -/
@[simp] def accepts : Call ι → Bool
  | .readConfig status config _ => status = .ok && configValid config
  | _ => false

/-- An image of the target is asked for. -/
@[simp] def loads (target : Target) : Call ι → Bool
  | .load found _ _ _ => found = target
  | _ => false

/-- The status of a failure of the target: its image failed to load, failed to start or came back. -/
@[simp] def failure (target : Target) : Call ι → Option Status
  | .load found status image _ =>
    if found ≠ target then none
    else if status ≠ .ok then some status
    else if image.isNone then some .errState else none
  | .start found _ status returned _ =>
    if found ≠ target then none
    else if status ≠ .ok then some status
    else if returned then some .errState else none
  | _ => none

/-- What `record_failure` was given. -/
@[simp] def recorded : Call ι → Option (Stage × BitVec 64)
  | .recordFailure stage platformStatus => some (stage, platformStatus)
  | _ => none

/-- The image that a load gave. -/
@[simp] def given : Call ι → Option (Target × ι)
  | .load target _ image _ => image.map (target, ·)
  | _ => none

@[simp] def unloaded : Call ι → Option (Target × ι)
  | .unload target image => some (target, image)
  | _ => none

/-- The image whose start reported success without returning. -/
@[simp] def transferred : Call ι → Option (Target × ι)
  | .start target image status returned _ =>
    if status = .ok ∧ returned = false then some (target, image) else none
  | _ => none

end Call

section Trace

variable {σ ι : Type}

/-- The calls for a target, with what is left to report. -/
structure Attempted (target : Target) (calls : List (Call ι))
    (r : Option (Stage × Status × BitVec 64)) : Prop where
  first : ∃ call rest, calls = call :: rest ∧ call.loads target = true
  loads : ∀ other, calls.countP (Call.loads other) = if target = other then 1 else 0
  failure : ∀ other, calls.filterMap (Call.failure other)
    = if target = other then (r.map fun found => found.2.1).toList else []
  status : ∀ found ∈ r, found.2.1 ≠ .ok
  recorded : calls.filterMap Call.recorded = []
  images : calls.filterMap Call.given
    = calls.filterMap Call.unloaded ++ calls.filterMap Call.transferred
  given : ((calls.filterMap Call.given).map Prod.fst).Sublist [target]
  transferred : (calls.filterMap Call.transferred).map Prod.fst = if r.isNone then [target] else []

variable {ops : LauncherOps σ ι} {unexpectedReturnStatus : BitVec 64}

theorem attempt_calls {target : Target} {config : Config} {s s' : σ × List (Call ι)}
    {r : Option (Stage × Status × BitVec 64)}
    (h : attempt ops.traced unexpectedReturnStatus target config s = (r, s')) :
    ∃ calls, s'.2 = s.2 ++ calls ∧ Attempted target calls r := by
  rcases hload : ops.load target config s.1 with ⟨⟨status, image, platformStatus⟩, w⟩
  simp only [attempt, LauncherOps.traced, hload] at h
  cases image with
  | none =>
    obtain ⟨rfl, rfl⟩ := Prod.mk.inj h
    refine ⟨_, rfl, ?_⟩
    constructor <;> simp [report, List.countP_cons, List.filterMap_cons] <;> grind
  | some image =>
    rcases hstart : ops.start target image w with ⟨⟨started, returned, startStatus⟩, w'⟩
    simp only [hstart] at h
    split_ifs at h with hfailed haway <;> obtain ⟨rfl, rfl⟩ := Prod.mk.inj h <;>
      simp only [List.append_assoc, List.append_cancel_left_eq, exists_eq_left'] <;>
      constructor <;> simp [report, List.countP_cons, List.filterMap_cons, *] <;> grind

/-- The calls of a run, with what it returns. -/
inductive Ran : List (Call ι) → Status → Result → Prop
  | refused {readStatus status : Status} {config : Config} {platformStatus : BitVec 64}
      {result : Result} (hrefused : readStatus ≠ .ok ∨ configValid config = false)
      (hstatus : status ≠ .ok) (hfailed : result.outcome = .failed) :
      Ran [.readConfig readStatus config platformStatus] status result
  | normal {config : Config} {platformStatus : BitVec 64} {calls : List (Call ι)} {result : Result}
      (hvalid : configValid config = true) (hnormal : Attempted .normal calls none)
      (hresult : result.outcome = Target.normal.outcome) :
      Ran (.readConfig .ok config platformStatus :: calls) .ok result
  | fallback {config : Config} {platformStatus : BitVec 64} {calls others : List (Call ι)}
      {stage : Stage} {reported : Status × BitVec 64} {last : Option (Stage × Status × BitVec 64)}
      {result : Result} (hvalid : configValid config = true)
      (hnormal : Attempted .normal calls (some (stage, reported)))
      (hrecovery : Attempted .recovery others last)
      (horiginal : (result.originalStage, result.originalPlatformStatus) = (stage, reported.2))
      (houtcome : result.outcome = if last.isNone then Target.recovery.outcome else .failed) :
      Ran (.readConfig .ok config platformStatus :: (calls ++
          .recordFailure stage reported.2 :: others))
        (if last.isNone then .ok else reported.1) result

theorem launcherRun_calls {w : σ} {status : Status} {result : Result} {s : σ × List (Call ι)}
    (h : launcherRun ops.traced unexpectedReturnStatus (w, []) = ((status, result), s)) :
    Ran s.2 status result := by
  rcases hread : ops.readConfig w with ⟨⟨readStatus, config, platformStatus⟩, w'⟩
  simp only [launcherRun, LauncherOps.traced, hread] at h
  split_ifs at h with hstatus hvalid hself
  · cases h
    exact .refused (.inl hstatus) hstatus rfl
  · cases h
    exact .refused (.inr hvalid) nofun rfl
  · cases h
    exact .refused (.inr hvalid) nofun rfl
  rw [not_not] at hstatus
  rw [Bool.not_eq_false] at hvalid
  split at h
  · rename_i s₁ hattempt
    obtain ⟨calls, hcalls, hnormal⟩ := attempt_calls hattempt
    cases h
    rw [hcalls, hstatus]
    exact .normal hvalid hnormal rfl
  · rename_i stage reported platform s₁ hattempt
    obtain ⟨calls, hcalls, hnormal⟩ := attempt_calls hattempt
    split at h <;> rename_i hattempt' <;> cases h <;>
      obtain ⟨others, hothers, hrecovery⟩ := attempt_calls hattempt' <;>
      simp only [hothers, hcalls, hstatus, List.nil_append, List.append_assoc, List.cons_append] <;>
      exact .fallback hvalid hnormal hrecovery rfl rfl

end Trace

end Pbns.Launcher
