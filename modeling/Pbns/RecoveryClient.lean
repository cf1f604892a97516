/-
The recovery client (`uefi/Library/PbnsRecoveryClientLib`) with the version operations of
the recovery service (`src/core/recovery_service_adapter.c`).

A boot runs the client once.  Its operations are programs that may do and return
anything and may lose power; only the version operations are given, over one NVRAM
controller.  What persists from boot to boot is the NVRAM.

* `recoveryServiceRollbackRead_spec`, `recoveryServiceRollbackAdvance_spec` — the version
  operations;
* `recoveryClientRun_rule` — what a run keeps, for any operations;
* `starts_strictly_increase` — sequences of boots.
-/
import Pbns.AntiRollback

namespace Pbns

open Crash

/-! ### The version operations -/

inductive RecoveryAssuranceMode
  | t
  | s
  deriving DecidableEq

/-- What the version operations read of `pbns_recovery_manifest`. -/
structure RecoveryManifest where
  artifactVersion : BitVec 64
  deriving DecidableEq

structure RecoveryServiceManifestState where
  manifest : RecoveryManifest
  ready : Bool
  deriving DecidableEq

structure RecoveryServiceRollback (ν : Type) where
  mode : RecoveryAssuranceMode
  controller : AntiRollback ν
  retained : AntiRollbackState
  retainedValid : Bool

section VersionOperations

variable {ν : Type}

def controllerMatchesMode : RecoveryAssuranceMode → AntiRollback ν → Bool
  | .t, .tpm _ => true
  | .s, .nvram _ => true
  | _, _ => false

/-- `pbns_recovery_service_manifest_target_matches`. -/
def RecoveryServiceManifestState.targetMatches (state : RecoveryServiceManifestState)
    (target : BitVec 64) : Bool :=
  state.ready && decide (0#64 < target) && decide (target = state.manifest.artifactVersion)

/-- `pbns_recovery_service_rollback_read`: the status, the version read and what is
retained of it. -/
def recoveryServiceRollbackRead (rollback : RecoveryServiceRollback ν) :
    Prog ν ((Status × BitVec 64) × RecoveryServiceRollback ν) := do
  if controllerMatchesMode rollback.mode rollback.controller = false then
    return ((.errArgument, 0#64), rollback)
  let read ← antiRollbackRead rollback.controller
  if read.1 ≠ .ok then return ((read.1, 0#64), { rollback with retainedValid := false })
  return ((.ok, read.2.version), { rollback with retained := read.2, retainedValid := true })

/-- `pbns_recovery_service_rollback_advance`. -/
def recoveryServiceRollbackAdvance (rollback : RecoveryServiceRollback ν)
    (manifestState : RecoveryServiceManifestState) (current target : BitVec 64)
    (manifestAuthorization : Octets) : Prog ν (Status × RecoveryServiceRollback ν) := do
  if controllerMatchesMode rollback.mode rollback.controller = false then
    return (.errArgument, rollback)
  if rollback.retainedValid = false ∨ current ≠ rollback.retained.version ∨ target ≤ current then
    return (.errReplay, rollback)
  if manifestState.targetMatches target = false then return (.errAuthentication, rollback)
  let reread ← antiRollbackRead rollback.controller
  if reread.1 ≠ .ok ∨ reread.2.version ≠ current then
    return (if reread.1 = .ok then .errReplay else reread.1, { rollback with retainedValid := false })
  let authorization := if rollback.mode = .t then manifestAuthorization else []
  let advanced ← antiRollbackAdvance rollback.controller target authorization
  if advanced.1 ≠ .ok then return (advanced.1, { rollback with retainedValid := false })
  let verified ← antiRollbackRead rollback.controller
  if verified.1 ≠ .ok ∨ verified.2.version ≠ target then
    return (if verified.1 = .ok then .errState else verified.1,
      { rollback with retainedValid := false })
  return (.ok, { rollback with retained := verified.2, retainedValid := true })

variable {slots : SlotOps ν} {held : ν → Nvram} {rollback : RecoveryServiceRollback ν}

theorem recoveryServiceRollbackRead_spec (hlaw : NvramLaw slots held)
    (hcontroller : rollback.controller = .nvram slots) (h : Nvram) :
    Triple (held · = h) (recoveryServiceRollbackRead rollback)
      (fun r s => held s = h ∧ r.2.controller = .nvram slots) (held · = h) := by
  obtain ⟨mode, controller, retained, retainedValid⟩ := rollback
  obtain rfl : controller = .nvram slots := hcontroller
  refine Triple.ite (fun _ => Triple.pure fun s hs => ⟨hs, rfl⟩) (fun _ => ?_)
  refine Triple.bind (readNvram_spec hlaw h) ?_
  intro read
  refine Triple.ite (fun _ => Triple.pure fun s hs => ⟨hs.2, rfl⟩) (fun _ => ?_)
  exact Triple.pure fun s hs => ⟨hs.2, rfl⟩

/-- **The advance of the service**: if it succeeds, the target is above the version that
was stored, is the version of a ready manifest, and is stored now. -/
theorem recoveryServiceRollbackAdvance_spec (hlaw : NvramLaw slots held)
    (hcontroller : rollback.controller = .nvram slots) (h : Nvram)
    (manifestState : RecoveryServiceManifestState) (current target : BitVec 64)
    (manifestAuthorization : Octets) :
    Triple (held · = h)
      (recoveryServiceRollbackAdvance rollback manifestState current target manifestAuthorization)
      (fun r s => h.Moved target (held s) ∧ r.2.controller = .nvram slots ∧ (r.1 = .ok →
        h.version < target ∧ (held s).state.1 = .ok ∧ (held s).version = target ∧
        manifestState.ready = true ∧ manifestState.manifest.artifactVersion = target))
      (fun s => h.Moved target (held s)) := by
  obtain ⟨mode, controller, retained, retainedValid⟩ := rollback
  obtain rfl : controller = .nvram slots := hcontroller
  refine Triple.ite (fun _ => Triple.pure fun s hs => ⟨.inl hs, rfl, by simp⟩) (fun _ => ?_)
  refine Triple.ite (fun _ => Triple.pure fun s hs => ⟨.inl hs, rfl, by simp⟩)
    (fun hretained => ?_)
  refine Triple.ite (fun _ => Triple.pure fun s hs => ⟨.inl hs, rfl, by simp⟩)
    (fun hmatches => ?_)
  have htarget : current < target := by
    rw [not_or, not_or, BitVec.not_le] at hretained
    exact hretained.2.2
  simp only [RecoveryServiceManifestState.targetMatches, Bool.not_eq_false, Bool.and_eq_true,
    decide_eq_true_eq] at hmatches
  refine Triple.bind ((readNvram_spec hlaw h).conseq (fun _ hs => hs) (fun _ _ hs => hs)
    (fun _ hs => .inl hs)) ?_
  intro reread
  refine Triple.assume (φ := reread = h.state) (fun _ hs => hs.1) ?_
  rintro rfl
  refine Triple.ite (fun hne => Triple.pure fun s hs => ⟨.inl hs.2, rfl, ?_⟩)
    (fun hsame => ?_)
  · intro hok
    split at hok <;> simp_all
  rw [not_or, not_not, not_not] at hsame
  have hlt : h.version < target := by rwa [Nvram.version, hsame.2]
  refine Triple.bind ((antiRollbackAdvance_spec hlaw h target _).conseq (fun _ hs => hs.2)
    (fun _ _ hs => hs) (fun _ hs => hs)) ?_
  intro advanced
  refine Triple.ite (fun hne => Triple.pure fun s hs =>
    ⟨hs.1, rfl, fun hok => absurd hok hne⟩) (fun _ => ?_)
  refine Triple.named ?_
  intro s₁ hs₁
  refine Triple.bind ((readNvram_spec hlaw (held s₁)).conseq (by rintro s rfl; rfl)
    (fun _ _ hs => hs) (fun s hs => hs ▸ hs₁.1)) ?_
  intro verified
  refine Triple.ite (fun hne => Triple.pure fun s hs => ⟨hs.2 ▸ hs₁.1, rfl, ?_⟩)
    (fun hverified => ?_)
  · intro hok
    split at hok <;> simp_all
  rw [not_or, not_not, not_not] at hverified
  refine Triple.pure ?_
  rintro s ⟨rfl, hs⟩
  rw [hs]
  exact ⟨hs₁.1, rfl, fun _ =>
    ⟨hlt, hverified.1, hverified.2, hmatches.1.1, hmatches.2.symm⟩⟩

end VersionOperations

/-! ### The client -/

inductive RecoveryClientState
  | confirm
  | time
  | manifest
  | allocate
  | stream
  | digest
  | loadVerify
  | advanceVersion
  | start
  | failed
  deriving DecidableEq

structure RecoveryPlan where
  artifactSize : BitVec 64
  targetVersion : BitVec 64
  artifactDigest : OctetArray 32
  versionAuthorization : Octets

structure RecoveryClientResult where
  state : RecoveryClientState
  failedStage : RecoveryClientState
  status : Status
  deriving DecidableEq

/-- `PBNS_RECOVERY_CLIENT_OPS` on a state `σ`, with pages of type `ι` and image handles of
type `κ`; no pages or handle is `NULL`.  The target version `startImage` is given is the
plan's: the source hands over the handle alone. -/
structure RecoveryClientOps (σ ι κ : Type) where
  confirm : Prog σ (Status × Bool)
  platformReady : Prog σ Status
  trustedTime : Prog σ Status
  verifiedManifest : Prog σ (Status × RecoveryPlan)
  allocatePages : BitVec 64 → Prog σ (Status × Option ι)
  streamImage : ι → BitVec 64 → Prog σ Status
  verifyDigest : ι → BitVec 64 → OctetArray 32 → Prog σ Status
  readVersion : Prog σ (Status × BitVec 64)
  loadImage : ι → BitVec 64 → Prog σ (Status × Option κ)
  advanceVersion : BitVec 64 → BitVec 64 → Octets → Prog σ Status
  startImage : BitVec 64 → κ → Prog σ Status
  unloadImage : κ → Prog σ Status
  freePages : ι × BitVec 64 → Prog σ Status
  stateChanged : Option (RecoveryClientState → Prog σ Unit)
  failed : Option (RecoveryClientState → Status → Prog σ Unit)

def recoveryClientMaxArtifactSize : BitVec 64 := 268435456#64

section Client

variable {σ ι κ : Type}

/-- The call of `transition`; the state it stores is overwritten before the run returns. -/
def RecoveryClientOps.transition (ops : RecoveryClientOps σ ι κ) (state : RecoveryClientState) :
    Prog σ Unit :=
  Prog.attempt (fun stateChanged => stateChanged state) ops.stateChanged

def failRun (ops : RecoveryClientOps σ ι κ) (stage : RecoveryClientState) (status : Status)
    (image : Option (ι × BitVec 64)) (imageHandle : Option κ) : Prog σ RecoveryClientResult := do
  Prog.attempt ops.unloadImage imageHandle
  Prog.attempt ops.freePages image
  ops.transition .failed
  Prog.attempt (fun failed => failed stage status) ops.failed
  return ⟨.failed, stage, status⟩

/-- The end of the run: the image is loaded, the version advanced, the image started. -/
def recoveryClientBoot (ops : RecoveryClientOps σ ι κ) (plan : RecoveryPlan) (image : ι)
    (currentVersion : BitVec 64) : Prog σ RecoveryClientResult := do
  let pages := some (image, plan.artifactSize)
  ops.transition .loadVerify
  let loaded ← ops.loadImage image plan.artifactSize
  match loaded.1, loaded.2 with
  | .ok, some imageHandle =>
    ops.transition .advanceVersion
    let advanced ← ops.advanceVersion currentVersion plan.targetVersion plan.versionAuthorization
    if advanced ≠ .ok then
      return ← failRun ops .advanceVersion advanced pages (some imageHandle)
    ops.transition .start
    let _ ← ops.startImage plan.targetVersion imageHandle
    failRun ops .start .errState pages (some imageHandle)
  | status, imageHandle =>
    failRun ops .loadVerify (if status = .ok then .errUnsupported else status) pages imageHandle

/-- The middle of the run, from the pages to the version. -/
def recoveryClientFetch (ops : RecoveryClientOps σ ι κ) (plan : RecoveryPlan) :
    Prog σ RecoveryClientResult := do
  ops.transition .allocate
  let allocated ← ops.allocatePages plan.artifactSize
  match allocated.1, allocated.2 with
  | .ok, some image =>
    let pages := some (image, plan.artifactSize)
    ops.transition .stream
    let streamed ← ops.streamImage image plan.artifactSize
    if streamed ≠ .ok then return ← failRun ops .stream streamed pages none
    ops.transition .digest
    let verified ← ops.verifyDigest image plan.artifactSize plan.artifactDigest
    if verified ≠ .ok then return ← failRun ops .digest verified pages none
    let current ← ops.readVersion
    if current.1 ≠ .ok then return ← failRun ops .digest current.1 pages none
    if plan.targetVersion ≤ current.2 then return ← failRun ops .digest .errReplay pages none
    recoveryClientBoot ops plan image current.2
  | status, _ =>
    failRun ops .allocate (if status = .ok then .errResource else status) none none

/-- `PbnsRecoveryClientRun`. -/
def recoveryClientRun (ops : RecoveryClientOps σ ι κ) : Prog σ RecoveryClientResult := do
  ops.transition .confirm
  let confirmed ← ops.confirm
  if confirmed.1 ≠ .ok then return ← failRun ops .confirm confirmed.1 none none
  if confirmed.2 = false then return ← failRun ops .confirm .errState none none
  let ready ← ops.platformReady
  if ready ≠ .ok then return ← failRun ops .confirm ready none none
  ops.transition .time
  let time ← ops.trustedTime
  if time ≠ .ok then return ← failRun ops .time time none none
  ops.transition .manifest
  let manifest ← ops.verifiedManifest
  if manifest.1 ≠ .ok then return ← failRun ops .manifest manifest.1 none none
  let plan := manifest.2
  if plan.artifactSize = 0#64 ∨ recoveryClientMaxArtifactSize < plan.artifactSize ∨
      sizeMax < plan.artifactSize.toNat ∨ plan.targetVersion = 0#64 then
    return ← failRun ops .manifest .errLimit none none
  recoveryClientFetch ops plan

/-- The operations other than those on versions and the start keep `I`. -/
structure RecoveryClientOps.Keep (ops : RecoveryClientOps σ ι κ) (I : σ → Prop) : Prop where
  confirm : Triple I ops.confirm (fun _ => I) I
  platformReady : Triple I ops.platformReady (fun _ => I) I
  trustedTime : Triple I ops.trustedTime (fun _ => I) I
  verifiedManifest : Triple I ops.verifiedManifest (fun _ => I) I
  allocatePages : ∀ size, Triple I (ops.allocatePages size) (fun _ => I) I
  streamImage : ∀ image size, Triple I (ops.streamImage image size) (fun _ => I) I
  verifyDigest : ∀ image size digest, Triple I (ops.verifyDigest image size digest) (fun _ => I) I
  loadImage : ∀ image size, Triple I (ops.loadImage image size) (fun _ => I) I
  unloadImage : ∀ handle, Triple I (ops.unloadImage handle) (fun _ => I) I
  freePages : ∀ pages, Triple I (ops.freePages pages) (fun _ => I) I
  stateChanged : ∀ f ∈ ops.stateChanged, ∀ state, Triple I (f state) (fun _ => I) I
  failed : ∀ f ∈ ops.failed, ∀ stage status, Triple I (f stage status) (fun _ => I) I

variable {ops : RecoveryClientOps σ ι κ} {I K : σ → Prop} {J : BitVec 64 → σ → Prop}

theorem RecoveryClientOps.Keep.transition (h : ops.Keep I) (state : RecoveryClientState) :
    Triple I (ops.transition state) (fun _ => I) I :=
  Triple.attempt (fun f hf => h.stateChanged f hf state)

theorem failRun_keep (h : ops.Keep I) (stage : RecoveryClientState) (status : Status)
    (image : Option (ι × BitVec 64)) (imageHandle : Option κ) :
    Triple I (failRun ops stage status image imageHandle) (fun _ => I) I := by
  refine Triple.bind (Triple.attempt fun handle _ => h.unloadImage handle) fun _ => ?_
  refine Triple.bind (Triple.attempt fun pages _ => h.freePages pages) fun _ => ?_
  refine Triple.bind (h.transition .failed) fun _ => ?_
  refine Triple.bind (Triple.attempt fun f hf => h.failed f hf stage status) fun _ => ?_
  exact Triple.pure fun _ hs => hs

/-- What a run needs: `I` holds up to the advance, `J target` from an advance to `target`
to the start, and `K` at the end. -/
structure RecoveryClientOps.Law (ops : RecoveryClientOps σ ι κ) (I : σ → Prop)
    (J : BitVec 64 → σ → Prop) (K : σ → Prop) : Prop where
  before : ops.Keep I
  between : ∀ target, ops.Keep (J target)
  after : ops.Keep K
  le : ∀ s, I s → K s
  reached : ∀ target s, J target s → K s
  readVersion : Triple I ops.readVersion (fun _ => I) I
  advanceVersion : ∀ current target authorization,
    Triple I (ops.advanceVersion current target authorization)
      (fun status s => K s ∧ (status = .ok → J target s)) K
  startImage : ∀ target handle, Triple (J target) (ops.startImage target handle) (fun _ => K) K

namespace RecoveryClientOps.Law

/-- A failed run, before the advance. -/
theorem fail (h : ops.Law I J K) (stage : RecoveryClientState) (status : Status)
    (image : Option (ι × BitVec 64)) (imageHandle : Option κ) :
    Triple I (failRun ops stage status image imageHandle) (fun _ => K) K :=
  (failRun_keep h.after stage status image imageHandle).conseq h.le (fun _ _ hs => hs)
    (fun _ hs => hs)

/-- An operation before the advance. -/
theorem early {α : Type} (h : ops.Law I J K) {m : Prog σ α} (hm : Triple I m (fun _ => I) I) :
    Triple I m (fun _ => I) K :=
  hm.conseq (fun _ hs => hs) (fun _ _ hs => hs) h.le

theorem boot (h : ops.Law I J K) (plan : RecoveryPlan) (image : ι) (currentVersion : BitVec 64) :
    Triple I (recoveryClientBoot ops plan image currentVersion) (fun _ => K) K := by
  refine Triple.bind (h.early (h.before.transition .loadVerify)) fun _ => ?_
  refine Triple.bind (h.early (h.before.loadImage image plan.artifactSize)) fun loaded => ?_
  split
  · refine Triple.bind (h.early (h.before.transition .advanceVersion)) fun _ => ?_
    refine Triple.bind (h.advanceVersion _ _ _) fun advanced => ?_
    refine Triple.ite (fun _ => ?_) (fun hok => ?_)
    · exact (failRun_keep h.after _ _ _ _).conseq (fun _ hs => hs.1) (fun _ _ hs => hs)
        (fun _ hs => hs)
    · have hstart := (h.between plan.targetVersion).transition .start
      refine Triple.bind (hstart.conseq (fun _ hs => hs.2 (not_not.mp hok)) (fun _ _ hs => hs)
        (h.reached plan.targetVersion)) fun _ => ?_
      refine Triple.bind (h.startImage _ _) fun _ => ?_
      exact failRun_keep h.after _ _ _ _
  · exact h.fail _ _ _ _

theorem fetch (h : ops.Law I J K) (plan : RecoveryPlan) :
    Triple I (recoveryClientFetch ops plan) (fun _ => K) K := by
  refine Triple.bind (h.early (h.before.transition .allocate)) fun _ => ?_
  refine Triple.bind (h.early (h.before.allocatePages _)) fun allocated => ?_
  split
  · refine Triple.bind (h.early (h.before.transition .stream)) fun _ => ?_
    refine Triple.bind (h.early (h.before.streamImage _ _)) fun streamed => ?_
    refine Triple.ite (fun _ => h.fail _ _ _ _) (fun _ => ?_)
    refine Triple.bind (h.early (h.before.transition .digest)) fun _ => ?_
    refine Triple.bind (h.early (h.before.verifyDigest _ _ _)) fun verified => ?_
    refine Triple.ite (fun _ => h.fail _ _ _ _) (fun _ => ?_)
    refine Triple.bind (h.early h.readVersion) fun current => ?_
    refine Triple.ite (fun _ => h.fail _ _ _ _) (fun _ => ?_)
    refine Triple.ite (fun _ => h.fail _ _ _ _) (fun _ => ?_)
    exact h.boot plan _ _
  · exact h.fail _ _ _ _

end RecoveryClientOps.Law

/-- **The rule for a run.** -/
theorem recoveryClientRun_rule (h : ops.Law I J K) :
    Triple I (recoveryClientRun ops) (fun _ => K) K := by
  refine Triple.bind (h.early (h.before.transition .confirm)) fun _ => ?_
  refine Triple.bind (h.early h.before.confirm) fun confirmed => ?_
  refine Triple.ite (fun _ => h.fail _ _ _ _) (fun _ => ?_)
  refine Triple.ite (fun _ => h.fail _ _ _ _) (fun _ => ?_)
  refine Triple.bind (h.early h.before.platformReady) fun ready => ?_
  refine Triple.ite (fun _ => h.fail _ _ _ _) (fun _ => ?_)
  refine Triple.bind (h.early (h.before.transition .time)) fun _ => ?_
  refine Triple.bind (h.early h.before.trustedTime) fun time => ?_
  refine Triple.ite (fun _ => h.fail _ _ _ _) (fun _ => ?_)
  refine Triple.bind (h.early (h.before.transition .manifest)) fun _ => ?_
  refine Triple.bind (h.early h.before.verifiedManifest) fun manifest => ?_
  refine Triple.ite (fun _ => h.fail _ _ _ _) (fun _ => ?_)
  refine Triple.ite (fun _ => h.fail _ _ _ _) (fun _ => ?_)
  exact h.fetch manifest.2

end Client

/-! ### Boots -/

/-- A start of an image: its target version, the manifest state the run handed to its
advance, and the status and version a read of the slots gives at this moment. -/
structure Start where
  target : BitVec 64
  manifestState : Option RecoveryServiceManifestState
  stored : Status × BitVec 64
  deriving DecidableEq

/-- A machine: its NVRAM, the memory of the service, all the rest, and the record of what
was handed to the advance of this boot and of the images started so far. -/
structure Machine (ν τ : Type) where
  nvram : ν
  rollback : RecoveryServiceRollback ν
  manifestState : RecoveryServiceManifestState
  outside : τ
  advanced : Option RecoveryServiceManifestState
  starts : List Start

/-- Power on: the memory has arbitrary contents, the operations other than those on
versions do what they like with the manifest state and the rest. -/
structure PowerOn (τ ι κ : Type) where
  mode : RecoveryAssuranceMode
  retained : AntiRollbackState
  retainedValid : Bool
  manifestState : RecoveryServiceManifestState
  ops : RecoveryClientOps (RecoveryServiceManifestState × τ) ι κ

section Boots

variable {ν τ ι κ α : Type}

/-- An operation on the manifest state and the rest. -/
def Machine.elsewhere (m : Prog (RecoveryServiceManifestState × τ) α) : Prog (Machine ν τ) α :=
  fun machine =>
    let r := m (machine.manifestState, machine.outside)
    (r.1, { machine with manifestState := r.2.1, outside := r.2.2 })

/-- A version operation: it returns a result and the memory of the service. -/
def Machine.version (m : RecoveryServiceRollback ν → Prog ν (α × RecoveryServiceRollback ν)) :
    Prog (Machine ν τ) α := fun machine =>
  match m machine.rollback machine.nvram with
  | (none, nvram) => (none, { machine with nvram })
  | (some (a, rollback), nvram) => (some a, { machine with nvram, rollback })

/-- The operations of a boot. -/
def Machine.ops (held : ν → Nvram) (other : RecoveryClientOps (RecoveryServiceManifestState × τ) ι κ) :
    RecoveryClientOps (Machine ν τ) ι κ where
  confirm := elsewhere other.confirm
  platformReady := elsewhere other.platformReady
  trustedTime := elsewhere other.trustedTime
  verifiedManifest := elsewhere other.verifiedManifest
  allocatePages size := elsewhere (other.allocatePages size)
  streamImage image size := elsewhere (other.streamImage image size)
  verifyDigest image size digest := elsewhere (other.verifyDigest image size digest)
  readVersion := version recoveryServiceRollbackRead
  loadImage image size := elsewhere (other.loadImage image size)
  advanceVersion current target authorization := fun machine =>
    version (fun rollback => recoveryServiceRollbackAdvance rollback machine.manifestState current
      target authorization) { machine with advanced := some machine.manifestState }
  startImage target handle := fun machine =>
    let state := (held machine.nvram).state
    elsewhere (other.startImage target handle) { machine with
      starts := machine.starts ++ [⟨target, machine.advanced, (state.1, state.2.version)⟩] }
  unloadImage handle := elsewhere (other.unloadImage handle)
  freePages pages := elsewhere (other.freePages pages)
  stateChanged := other.stateChanged.map fun f state => elsewhere (f state)
  failed := other.failed.map fun f stage status => elsewhere (f stage status)

/-- One boot. -/
def Machine.boot (slots : SlotOps ν) (held : ν → Nvram) (machine : Machine ν τ)
    (power : PowerOn τ ι κ) : Machine ν τ :=
  (recoveryClientRun (Machine.ops held power.ops) { machine with
    rollback := ⟨power.mode, .nvram slots, power.retained, power.retainedValid⟩
    manifestState := power.manifestState
    advanced := none }).2

/-- Boots one after the other. -/
def Machine.boots (slots : SlotOps ν) (held : ν → Nvram) (machine : Machine ν τ)
    (powers : List (PowerOn τ ι κ)) : Machine ν τ :=
  powers.foldl (Machine.boot slots held) machine

/-- The start was of the artifact of a ready manifest, whose version was stored by then. -/
def Start.Sound (start : Start) : Prop :=
  (∃ state, start.manifestState = some state ∧ state.ready = true ∧
    state.manifest.artifactVersion = start.target) ∧ start.stored = (.ok, start.target)

variable {slots : SlotOps ν} {held : ν → Nvram} {I : Machine ν τ → Prop}

/-- What neither reads the manifest state nor the rest is kept elsewhere. -/
theorem Machine.elsewhere_keep
    (hI : ∀ machine manifestState outside, I machine → I { machine with manifestState, outside })
    (m : Prog (RecoveryServiceManifestState × τ) α) :
    Triple I (Machine.elsewhere m) (fun _ => I) I := by
  intro machine hmachine
  refine ⟨?_, ?_⟩
  · intro a machine' heq
    obtain rfl := congrArg Prod.snd heq
    exact hI machine _ _ hmachine
  · intro machine' heq
    obtain rfl := congrArg Prod.snd heq
    exact hI machine _ _ hmachine

theorem Machine.ops_keep
    (hI : ∀ machine manifestState outside, I machine → I { machine with manifestState, outside })
    (other : RecoveryClientOps (RecoveryServiceManifestState × τ) ι κ) :
    (Machine.ops held other).Keep I where
  confirm := elsewhere_keep hI _
  platformReady := elsewhere_keep hI _
  trustedTime := elsewhere_keep hI _
  verifiedManifest := elsewhere_keep hI _
  allocatePages _ := elsewhere_keep hI _
  streamImage _ _ := elsewhere_keep hI _
  verifyDigest _ _ _ := elsewhere_keep hI _
  loadImage _ _ := elsewhere_keep hI _
  unloadImage _ := elsewhere_keep hI _
  freePages _ := elsewhere_keep hI _
  stateChanged := by
    intro f hf state
    obtain ⟨g, -, rfl⟩ := Option.map_eq_some_iff.mp hf
    exact elsewhere_keep hI _
  failed := by
    intro f hf stage status
    obtain ⟨g, -, rfl⟩ := Option.map_eq_some_iff.mp hf
    exact elsewhere_keep hI _

/-- A version operation on the machine, from what it does to the slots. -/
theorem Machine.version_spec {m : RecoveryServiceRollback ν → Prog ν (α × RecoveryServiceRollback ν)}
    (machine : Machine ν τ) {P : ν → Prop} {Q : α × RecoveryServiceRollback ν → ν → Prop}
    {C : ν → Prop} (h : Triple P (m machine.rollback) Q C) (hP : P machine.nvram) :
    (∀ a machine', Machine.version m machine = (some a, machine') →
      ∃ nvram rollback, machine' = { machine with nvram, rollback } ∧ Q (a, rollback) nvram) ∧
    ∀ machine', Machine.version m machine = (none, machine') →
      ∃ nvram, machine' = { machine with nvram } ∧ C nvram := by
  obtain ⟨hret, hcrash⟩ := h machine.nvram hP
  rw [Machine.version]
  rcases heq : m machine.rollback machine.nvram with ⟨_ | ⟨b, rollback⟩, nvram⟩
  · refine ⟨?_, ?_⟩
    · rintro a machine' ⟨⟩
    · rintro machine' ⟨⟩
      exact ⟨nvram, rfl, hcrash nvram heq⟩
  · refine ⟨?_, ?_⟩
    · rintro a machine' ⟨⟩
      exact ⟨nvram, rollback, rfl, hret _ nvram heq⟩
    · rintro machine' ⟨⟩

namespace Machine

/-- Up to the advance of a boot, from the starts `L` and the slots `h`. -/
def Before (slots : SlotOps ν) (held : ν → Nvram) (L : List Start) (h : Nvram)
    (machine : Machine ν τ) : Prop :=
  machine.starts = L ∧ held machine.nvram = h ∧ machine.rollback.controller = .nvram slots

/-- From the advance to the start. -/
def Between (held : ν → Nvram) (L : List Start) (h : Nvram) (target : BitVec 64)
    (machine : Machine ν τ) : Prop :=
  machine.starts = L ∧ h.version < target ∧ (held machine.nvram).state.1 = .ok ∧
    (held machine.nvram).version = target ∧
    ∃ state, machine.advanced = some state ∧ state.ready = true ∧
      state.manifest.artifactVersion = target

/-- At the end: nothing was started, or one image of a higher version. -/
def After (held : ν → Nvram) (L : List Start) (h : Nvram) (machine : Machine ν τ) : Prop :=
  (machine.starts = L ∧ h.version ≤ (held machine.nvram).version) ∨
    ∃ start, machine.starts = L ++ [start] ∧ start.Sound ∧ h.version < start.target ∧
      (held machine.nvram).version = start.target

/-- The operations of a boot keep to the rule. -/
theorem ops_law (hlaw : NvramLaw slots held)
    (other : RecoveryClientOps (RecoveryServiceManifestState × τ) ι κ) (L : List Start)
    (h : Nvram) :
    (Machine.ops held other).Law (Before slots held L h) (Between held L h) (After held L h) where
  before := ops_keep (fun _ _ _ hm => hm) other
  between _ := ops_keep (fun _ _ _ hm => hm) other
  after := ops_keep (fun _ _ _ hm => hm) other
  le := by
    rintro machine ⟨hstarts, rfl, -⟩
    exact .inl ⟨hstarts, BitVec.le_refl _⟩
  reached := by
    rintro target machine ⟨hstarts, hlt, -, hversion, -⟩
    exact .inl ⟨hstarts, hversion ▸ BitVec.le_of_lt hlt⟩
  readVersion := by
    rintro machine ⟨hstarts, hheld, hcontroller⟩
    obtain ⟨hret, hcrash⟩ :=
      Machine.version_spec machine (recoveryServiceRollbackRead_spec hlaw hcontroller h) hheld
    refine ⟨?_, ?_⟩
    · intro a machine' heq
      obtain ⟨nvram, rollback, rfl, hnvram, hrollback⟩ := hret a machine' heq
      exact ⟨hstarts, hnvram, hrollback⟩
    · intro machine' heq
      obtain ⟨nvram, rfl, hnvram⟩ := hcrash machine' heq
      exact ⟨hstarts, hnvram, hcontroller⟩
  advanceVersion := by
    rintro current target authorization machine ⟨hstarts, hheld, hcontroller⟩
    have hspec := recoveryServiceRollbackAdvance_spec hlaw hcontroller h machine.manifestState
      current target authorization
    obtain ⟨hret, hcrash⟩ := Machine.version_spec (m := fun rollback =>
        recoveryServiceRollbackAdvance rollback machine.manifestState current target authorization)
      { machine with advanced := some machine.manifestState } hspec hheld
    refine ⟨?_, ?_⟩
    · intro status machine' heq
      obtain ⟨nvram, rollback, rfl, hmoved, -, hok⟩ := hret status machine' heq
      refine ⟨.inl ⟨hstarts, hmoved.version_le⟩, fun hstatus => ?_⟩
      obtain ⟨hlt, hstate, hversion, hready⟩ := hok hstatus
      exact ⟨hstarts, hlt, hstate, hversion, machine.manifestState, rfl, hready⟩
    · intro machine' heq
      obtain ⟨nvram, rfl, hmoved⟩ := hcrash machine' heq
      exact .inl ⟨hstarts, hmoved.version_le⟩
  startImage := by
    rintro target handle machine ⟨hstarts, hlt, hstate, hversion, hmanifest⟩
    -- the start is recorded before the image runs
    have hrecorded : After held L h { machine with
        starts := machine.starts ++ [⟨target, machine.advanced, ((held machine.nvram).state.1,
          (held machine.nvram).state.2.version)⟩] } := by
      refine .inr ⟨_, congrArg (· ++ [_]) hstarts, ⟨hmanifest, ?_⟩, hlt, hversion⟩
      rw [hstate]
      exact congrArg (Prod.mk Status.ok) hversion
    exact elsewhere_keep (fun _ _ _ hm => hm) (other.startImage target handle) _ hrecorded

/-- **One boot.** -/
theorem boot_after (hlaw : NvramLaw slots held) (machine : Machine ν τ) (power : PowerOn τ ι κ) :
    After held machine.starts (held machine.nvram) (machine.boot slots held power) := by
  obtain ⟨hret, hcrash⟩ :=
    recoveryClientRun_rule (ops_law hlaw power.ops machine.starts (held machine.nvram))
      { machine with
        rollback := ⟨power.mode, .nvram slots, power.retained, power.retainedValid⟩
        manifestState := power.manifestState
        advanced := none } ⟨rfl, rfl, rfl⟩
  rw [Machine.boot]
  rcases heq : recoveryClientRun (Machine.ops held power.ops) _ with ⟨_ | result, machine'⟩
  · exact hcrash machine' heq
  · exact hret result machine' heq

/-- The starts are sound, in order, and not above the stored version. -/
def Ordered (held : ν → Nvram) (machine : Machine ν τ) : Prop :=
  (machine.starts.map Start.target).Pairwise (· < ·) ∧
    ∀ start ∈ machine.starts, start.Sound ∧ start.target ≤ (held machine.nvram).version

theorem Ordered.boot (hlaw : NvramLaw slots held) {machine : Machine ν τ}
    (hm : machine.Ordered held) (power : PowerOn τ ι κ) :
    (machine.boot slots held power).Ordered held := by
  obtain ⟨hpairs, hall⟩ := hm
  rcases boot_after hlaw machine power with ⟨hstarts, hle⟩ | ⟨start, hstarts, hsound, hlt, hversion⟩
  · rw [Ordered, hstarts]
    exact ⟨hpairs, fun start hstart =>
      ⟨(hall start hstart).1, BitVec.le_trans (hall start hstart).2 hle⟩⟩
  · rw [Ordered, hstarts, hversion, List.map_append, List.pairwise_append]
    refine ⟨⟨hpairs, List.pairwise_singleton _ _, ?_⟩, ?_⟩
    · intro target htarget target' htarget'
      obtain ⟨earlier, hearlier, rfl⟩ := List.mem_map.mp htarget
      rw [List.map_singleton, List.mem_singleton] at htarget'
      subst htarget'
      exact BitVec.lt_def.mpr (Nat.lt_of_le_of_lt (BitVec.le_def.mp (hall earlier hearlier).2)
        (BitVec.lt_def.mp hlt))
    · intro earlier hearlier
      rcases List.mem_append.mp hearlier with hearlier | hearlier
      · exact ⟨(hall earlier hearlier).1,
          BitVec.le_trans (hall earlier hearlier).2 (BitVec.le_of_lt hlt)⟩
      · obtain rfl := List.mem_singleton.mp hearlier
        exact ⟨hsound, BitVec.le_refl _⟩

theorem Ordered.boots (hlaw : NvramLaw slots held) {machine : Machine ν τ}
    (hm : machine.Ordered held) (powers : List (PowerOn τ ι κ)) :
    (machine.boots slots held powers).Ordered held := by
  induction powers generalizing machine with
  | nil => exact hm
  | cons power powers ih => exact ih (hm.boot hlaw power)

end Machine

/-- **No version is started twice or out of order**, over any boots of a machine with
any NVRAM: the target versions of the starts increase strictly, each is the artifact
version of the ready manifest state its run handed to the advance, and is stored at the
moment of the start. -/
theorem starts_strictly_increase (hlaw : NvramLaw slots held) {machine : Machine ν τ}
    (h₀ : machine.starts = []) (powers : List (PowerOn τ ι κ)) :
    ((machine.boots slots held powers).starts.map Start.target).Pairwise (· < ·) ∧
    ∀ start ∈ (machine.boots slots held powers).starts,
      (∃ state, start.manifestState = some state ∧ state.ready = true ∧
        state.manifest.artifactVersion = start.target) ∧ start.stored = (.ok, start.target) := by
  have hfirst : machine.Ordered held := by
    rw [Machine.Ordered, h₀]
    exact ⟨List.Pairwise.nil, by simp⟩
  obtain ⟨hpairs, hall⟩ := hfirst.boots hlaw powers
  exact ⟨hpairs, fun start hstart => (hall start hstart).1⟩

end Boots

/-- Operations that recover version `v`; the image runs until power is lost. -/
def sampleClientOps (v : BitVec 64) :
    RecoveryClientOps (RecoveryServiceManifestState × Unit) Unit Unit where
  confirm := pure (.ok, true)
  platformReady := pure .ok
  trustedTime := pure .ok
  verifiedManifest := fun s =>
    (some (.ok, ⟨1#64, v, List.Vector.replicate 32 0#8, []⟩), (⟨⟨v⟩, true⟩, s.2))
  allocatePages _ := pure (.ok, some ())
  streamImage _ _ := pure .ok
  verifyDigest _ _ _ := pure .ok
  readVersion := pure (.ok, 0#64)
  loadImage _ _ := pure (.ok, some ())
  advanceVersion _ _ _ := pure .ok
  startImage _ _ := fun s => (none, s)
  unloadImage _ := pure .ok
  freePages _ := pure .ok
  stateChanged := none
  failed := none

def samplePowerOn (v : BitVec 64) : PowerOn Unit Unit Unit :=
  ⟨.s, antiRollbackZero, false, ⟨⟨0#64⟩, false⟩, sampleClientOps v⟩

def sampleMachine : Machine Nvram Unit :=
  ⟨fun _ => none, ⟨.s, .nvram sampleSlots, antiRollbackZero, false⟩, ⟨⟨0#64⟩, false⟩, (), none, []⟩

/-- Versions 1, 1, 2, 3 are offered; the second is a replay, the write of the third tears. -/
theorem starts_strictly_increase_sample :
    (sampleMachine.boots sampleSlots id ([1#64, 1#64, 2#64, 3#64].map samplePowerOn)).starts.map
      Start.target = [1#64, 3#64] ∧
    ((sampleMachine.boots sampleSlots id ([1#64, 1#64, 2#64, 3#64].map samplePowerOn)).starts.map
      Start.target).Pairwise (· < ·) :=
  ⟨by decide +kernel, (starts_strictly_increase sampleSlots_law rfl _).1⟩

end Pbns
