/-
The calls of one run of the recovery client (`PbnsRecoveryClientRun`): the order of its stages,
and what becomes of the pages and of the image handle.

The operations may do and return anything, a failure with a handle and a success without one
included.  The log records what each of them returned, and the start of an image before it runs:
power may be lost while it does.

* `failRun_ended` — the end of a run, from what was called until then;
* `recovery_client_stages` — every run.
-/
import Pbns.RecoveryClient

namespace Pbns

open Crash

/-- What a run calls; `stage` is a transition. -/
inductive ClientCall (ι κ : Type)
  | stage (state : RecoveryClientState)
  | confirm (status : Status) (accepted : Bool)
  | platformReady (status : Status)
  | trustedTime (status : Status)
  | verifiedManifest (status : Status) (plan : RecoveryPlan)
  | allocatePages (size : BitVec 64) (status : Status) (image : Option ι)
  | streamImage (image : ι) (size : BitVec 64) (status : Status)
  | verifyDigest (image : ι) (size : BitVec 64) (digest : OctetArray 32) (status : Status)
  | readVersion (status : Status) (version : BitVec 64)
  | loadImage (image : ι) (size : BitVec 64) (status : Status) (imageHandle : Option κ)
  | advanceVersion (current target : BitVec 64) (authorization : Octets) (status : Status)
  | startImage (imageHandle : κ)
  | unloadImage (imageHandle : κ)
  | freePages (pages : ι × BitVec 64)
  | failed (stage : RecoveryClientState) (status : Status)

/-- A plan the client goes on with. -/
def RecoveryPlan.Accepted (plan : RecoveryPlan) : Prop :=
  ¬ (plan.artifactSize = 0#64 ∨ recoveryClientMaxArtifactSize < plan.artifactSize ∨
    sizeMax < plan.artifactSize.toNat ∨ plan.targetVersion = 0#64)

namespace ClientCall

variable {ι κ : Type}

def state : ClientCall ι κ → Option RecoveryClientState
  | .stage state => some state
  | _ => none

/-- The pages the call obtained. -/
def pages : ClientCall ι κ → Option (ι × BitVec 64)
  | .allocatePages size .ok (some image) => some (image, size)
  | _ => none

/-- The handle the call obtained, whatever its status. -/
def handle : ClientCall ι κ → Option κ
  | .loadImage _ _ _ imageHandle => imageHandle
  | _ => none

def cleanup : ClientCall ι κ → Bool
  | .unloadImage _ | .freePages _ => true
  | _ => false

/-- The run goes on after the call, given the calls before it.  A started image that returns has
failed. -/
def Passes (before : List (ClientCall ι κ)) : ClientCall ι κ → Prop
  | .confirm status accepted => status = .ok ∧ accepted = true
  | .platformReady status | .trustedTime status | .streamImage _ _ status
  | .verifyDigest _ _ _ status | .advanceVersion _ _ _ status => status = .ok
  | .verifiedManifest status plan => status = .ok ∧ plan.Accepted
  | .allocatePages _ status image => status = .ok ∧ image ≠ none
  | .readVersion status version =>
    status = .ok ∧ ∀ plan, .verifiedManifest .ok plan ∈ before → version < plan.targetVersion
  | .loadImage _ _ status imageHandle => status = .ok ∧ imageHandle ≠ none
  | .startImage _ => False
  | _ => True

/-- The calls of a run up to its plan. -/
def upToPlan (plan : RecoveryPlan) : List (ClientCall ι κ) :=
  [.stage .confirm, .confirm .ok true, .platformReady .ok, .stage .time, .trustedTime .ok,
    .stage .manifest, .verifiedManifest .ok plan]

/-- Those up to the version it starts from. -/
def upToVersion (plan : RecoveryPlan) (image : ι) (current : BitVec 64) : List (ClientCall ι κ) :=
  upToPlan plan ++ [.stage .allocate, .allocatePages plan.artifactSize .ok (some image),
    .stage .stream, .streamImage image plan.artifactSize .ok,
    .stage .digest, .verifyDigest image plan.artifactSize plan.artifactDigest .ok,
    .readVersion .ok current]

/-- Those up to the start of an image. -/
def upToStart (plan : RecoveryPlan) (image : ι) (current : BitVec 64) (imageHandle : κ) :
    List (ClientCall ι κ) :=
  upToVersion plan image current ++ [.stage .loadVerify,
    .loadImage image plan.artifactSize .ok (some imageHandle), .stage .advanceVersion,
    .advanceVersion current plan.targetVersion plan.versionAuthorization .ok, .stage .start]

end ClientCall

section Trace

variable {σ ι κ α : Type}

/-- The state, with the log of the calls. -/
abbrev Traced (σ ι κ : Type) : Type := σ × List (ClientCall ι κ)

/-- An operation that is logged with what it returned. -/
def Prog.record (call : α → ClientCall ι κ) (m : Prog σ α) : Prog (Traced σ ι κ) α :=
  fun s =>
    match m s.1 with
    | (some a, s') => (some a, s', s.2 ++ [call a])
    | (none, s') => (none, s', s.2)

/-- An operation that is logged before it runs. -/
def Prog.announce (call : ClientCall ι κ) (m : Prog σ α) : Prog (Traced σ ι κ) α :=
  fun s => ((m s.1).1, (m s.1).2, s.2 ++ [call])

/-- The operations, with the log of their calls. -/
def RecoveryClientOps.traced (ops : RecoveryClientOps σ ι κ) :
    RecoveryClientOps (Traced σ ι κ) ι κ where
  confirm := Prog.record (fun r => .confirm r.1 r.2) ops.confirm
  platformReady := Prog.record .platformReady ops.platformReady
  trustedTime := Prog.record .trustedTime ops.trustedTime
  verifiedManifest := Prog.record (fun r => .verifiedManifest r.1 r.2) ops.verifiedManifest
  allocatePages size :=
    Prog.record (fun r => .allocatePages size r.1 r.2) (ops.allocatePages size)
  streamImage image size := Prog.record (.streamImage image size) (ops.streamImage image size)
  verifyDigest image size digest :=
    Prog.record (.verifyDigest image size digest) (ops.verifyDigest image size digest)
  readVersion := Prog.record (fun r => .readVersion r.1 r.2) ops.readVersion
  loadImage image size :=
    Prog.record (fun r => .loadImage image size r.1 r.2) (ops.loadImage image size)
  advanceVersion current target authorization :=
    Prog.record (.advanceVersion current target authorization)
      (ops.advanceVersion current target authorization)
  startImage target imageHandle :=
    Prog.announce (.startImage imageHandle) (ops.startImage target imageHandle)
  unloadImage imageHandle := Prog.announce (.unloadImage imageHandle) (ops.unloadImage imageHandle)
  freePages pages := Prog.announce (.freePages pages) (ops.freePages pages)
  stateChanged := some fun state =>
    Prog.announce (.stage state) (Prog.attempt (fun f => f state) ops.stateChanged)
  failed := some fun stage status =>
    Prog.announce (.failed stage status) (Prog.attempt (fun f => f stage status) ops.failed)

end Trace

/-! ### The log of a run -/

section Log

variable {σ ι κ α : Type} {ops : RecoveryClientOps σ ι κ} {calls front rest : List (ClientCall ι κ)}
  {last call : ClientCall ι κ}

/-- Every call lets the run go on. -/
def Going (calls : List (ClientCall ι κ)) : Prop :=
  ∀ before call after, calls = before ++ call :: after → call.Passes before

theorem Going.snoc (h : Going calls) (hcall : call.Passes calls) : Going (calls ++ [call]) := by
  intro before c after heq
  rcases List.eq_nil_or_concat after with rfl | ⟨after, c', rfl⟩
  · obtain ⟨rfl, hc⟩ := List.append_inj' heq rfl
    cases hc
    exact hcall
  · rw [List.concat_eq_append, ← List.cons_append, ← List.append_assoc] at heq
    exact h before c after (List.append_inj' heq rfl).1

theorem Going.no_start (h : Going calls) (imageHandle : κ) : .startImage imageHandle ∉ calls := by
  intro hmem
  obtain ⟨before, after, rfl⟩ := List.append_of_mem hmem
  exact h before _ after rfl

/-- An image is started once, after everything in front of it, and below the target. -/
def StartsLast (log : List (ClientCall ι κ)) : Prop :=
  ∀ imageHandle, .startImage imageHandle ∈ log → ∃ plan image current rest,
    current < plan.targetVersion ∧
      log = ClientCall.upToStart plan image current imageHandle ++ .startImage imageHandle :: rest ∧
      ∀ h, .startImage h ∉ rest

theorem Going.starts (h : Going calls) : StartsLast calls :=
  fun imageHandle hmem => absurd hmem (h.no_start imageHandle)

theorem StartsLast.append (h : StartsLast calls) (hrest : ∀ h, .startImage h ∉ rest) :
    StartsLast (calls ++ rest) := by
  intro imageHandle hmem
  obtain ⟨plan, image, current, rest', hlt, rfl, hnone⟩ :=
    h imageHandle ((List.mem_append.mp hmem).resolve_right (hrest imageHandle))
  refine ⟨plan, image, current, rest' ++ rest, hlt, by simp, fun h' hmem' => ?_⟩
  exact (List.mem_append.mp hmem').elim (hnone h') (hrest h')

/-- The pages and the handle the calls obtained, at most one of each, and nothing given back. -/
structure Holds (calls : List (ClientCall ι κ)) (image : Option (ι × BitVec 64))
    (imageHandle : Option κ) : Prop where
  pages : calls.filterMap ClientCall.pages = image.toList
  handle : calls.filterMap ClientCall.handle = imageHandle.toList
  kept : calls.filter ClientCall.cleanup = []

/-- How a run ends: calls that pass, the one that does not, the cleanup and the report. -/
structure RunEnded (front : List (ClientCall ι κ)) (last : ClientCall ι κ) (image : Option (ι × BitVec 64))
    (imageHandle : Option κ) (result : RecoveryClientResult) (log : List (ClientCall ι κ)) : Prop where
  log_eq : log = front ++ [last] ++ imageHandle.toList.map .unloadImage
    ++ image.toList.map .freePages ++ [.stage .failed, .failed result.failedStage result.status]
  holds : Holds (front ++ [last]) image imageHandle
  going : Going front
  fails : ¬ last.Passes front
  stage : (front.filterMap ClientCall.state).getLast? = some result.failedStage
  status : result.status ≠ .ok

/-- The log so far. -/
def Logged (calls : List (ClientCall ι κ)) (s : Traced σ ι κ) : Prop := s.2 = calls

/-- Where power may be lost. -/
def Lost (s : Traced σ ι κ) : Prop := StartsLast s.2

theorem record_logged (call : α → ClientCall ι κ) (m : Prog σ α) (h : StartsLast calls) :
    Triple (Logged calls) (Prog.record call m) (fun a => Logged (calls ++ [call a])) Lost := by
  rintro ⟨s, log⟩ rfl
  obtain ⟨⟨result, s'⟩, hm⟩ : ∃ answer, m s = answer := ⟨_, rfl⟩
  cases result with
  | none => exact ⟨by simp [Prog.record, hm], by simpa [Prog.record, hm, Lost] using h⟩
  | some a => exact ⟨by simp [Prog.record, hm, Logged], by simp [Prog.record, hm]⟩

theorem announce_logged (call : ClientCall ι κ) (m : Prog σ α) (h : StartsLast (calls ++ [call])) :
    Triple (Logged calls) (Prog.announce call m) (fun _ => Logged (calls ++ [call])) Lost := by
  rintro ⟨s, log⟩ rfl
  exact ⟨by simp [Prog.announce, Logged], by simp [Prog.announce, Lost, h]⟩

/-- A call there is a value for; nothing is started by it. -/
theorem attempt_logged {β : Type} (call : β → ClientCall ι κ) (m : β → Prog σ α) (x : Option β)
    (h : StartsLast calls) (hcall : ∀ b imageHandle, .startImage imageHandle ≠ call b) :
    Triple (Logged calls) (Prog.attempt (fun b => Prog.announce (call b) (m b)) x)
      (fun _ => Logged (calls ++ x.toList.map call)) Lost := by
  cases x with
  | none => exact Triple.pure fun s hs => hs.trans (List.append_nil _).symm
  | some b =>
    refine Triple.bind (announce_logged _ _ (h.append ?_)) fun _ => Triple.pure fun _ hs => hs
    simpa using hcall b

/-- A call of a function that may be missing, logged in any case. -/
theorem report_logged (call : ClientCall ι κ) (m : Prog σ α) (h : StartsLast calls)
    (hcall : ∀ imageHandle, .startImage imageHandle ≠ call) :
    Triple (Logged calls) (do let _ ← Prog.announce call m; return ())
      (fun _ => Logged (calls ++ [call])) Lost :=
  attempt_logged (fun _ : Unit => call) (fun _ => m) (some ()) h fun _ => hcall

theorem transition_logged (state : RecoveryClientState) (h : StartsLast calls) :
    Triple (Logged calls) (ops.traced.transition state)
      (fun _ => Logged (calls ++ [.stage state])) Lost :=
  report_logged _ _ h (by nofun)

def Ends (result : RecoveryClientResult) (s : Traced σ ι κ) : Prop :=
  StartsLast s.2 ∧ ∃ front last image imageHandle, RunEnded front last image imageHandle result s.2

theorem failRun_ended {stage : RecoveryClientState} {status : Status} {image : Option (ι × BitVec 64)}
    {imageHandle : Option κ} (hgoing : Going front) (hfails : ¬ last.Passes front)
    (hstart : StartsLast (front ++ [last])) (hholds : Holds (front ++ [last]) image imageHandle)
    (hstage : (front.filterMap ClientCall.state).getLast? = some stage) (hstatus : status ≠ .ok) :
    Triple (Logged (front ++ [last])) (failRun ops.traced stage status image imageHandle) Ends Lost := by
  have hunload : StartsLast (_ ++ imageHandle.toList.map .unloadImage) := hstart.append (by simp)
  have hfree : StartsLast (_ ++ image.toList.map .freePages) := hunload.append (by simp)
  have hfailed : StartsLast (_ ++ [.stage .failed]) := hfree.append (by simp)
  refine Triple.bind (attempt_logged .unloadImage ops.unloadImage imageHandle hstart (by nofun))
    fun _ => ?_
  refine Triple.bind (attempt_logged .freePages ops.freePages image hunload (by nofun)) fun _ => ?_
  refine Triple.bind (transition_logged .failed hfree) fun _ => ?_
  refine Triple.bind (report_logged (.failed stage status) _ hfailed (by nofun)) fun _ => Triple.pure ?_
  rintro ⟨s, log⟩ rfl
  exact ⟨hfailed.append (by simp), front, last, image, imageHandle,
    ⟨by simp, hholds, hgoing, hfails, hstage, hstatus⟩⟩

/-- A transition. -/
theorem staged {β : Type} {f : Unit → Prog (Traced σ ι κ) β}
    {Q : β → Traced σ ι κ → Prop} (state : RecoveryClientState) (h : Going calls)
    (hf : Going (calls ++ [.stage state]) →
      Triple (Logged (calls ++ [.stage state])) (f ()) Q Lost) :
    Triple (Logged calls) (ops.traced.transition state >>= f) Q Lost :=
  Triple.bind (transition_logged state h.starts) fun _ => hf (h.snoc trivial)

/-- An operation whose status is checked. -/
theorem checked {call : α → ClientCall ι κ} {m : Prog σ α} {status : α → Status}
    {stage : RecoveryClientState} {image : Option (ι × BitVec 64)} {imageHandle : Option κ}
    {f : α → Prog (Traced σ ι κ) RecoveryClientResult} (h : Going calls)
    (hfails : ∀ a, status a ≠ .ok → ¬ (call a).Passes calls)
    (hcall : ∀ a imageHandle, .startImage imageHandle ≠ call a)
    (hholds : ∀ a, Holds (calls ++ [call a]) image imageHandle)
    (hstage : (calls.filterMap ClientCall.state).getLast? = some stage)
    (hf : ∀ a, status a = .ok →
      Triple (Logged (calls ++ [call a])) (f a) Ends Lost) :
    Triple (Logged calls) (do
      let a ← Prog.record call m
      if status a ≠ .ok then return ← failRun ops.traced stage (status a) image imageHandle
      f a) Ends Lost := by
  refine Triple.bind (record_logged call m h.starts) fun a => ?_
  refine Triple.ite (fun hne => ?_) fun hok => hf a (not_not.mp hok)
  exact failRun_ended h (hfails a hne) (h.starts.append (by simpa using hcall a)) (hholds a) hstage hne

variable {plan : RecoveryPlan} {image : ι} {current : BitVec 64}

theorem recoveryClientBoot_ends (hcalls : calls = ClientCall.upToVersion plan image current)
    (hgoing : Going calls) (hlt : current < plan.targetVersion) :
    Triple (Logged calls) (recoveryClientBoot ops.traced plan image current) Ends Lost := by
  subst hcalls
  refine staged .loadVerify hgoing fun hload => ?_
  refine Triple.bind (record_logged _ _ hload.starts) fun ⟨status, imageHandle⟩ => ?_
  split
  · rename_i imageHandle hok hsome
    cases hok
    cases hsome
    refine staged .advanceVersion (hload.snoc ⟨rfl, by simp⟩) fun hadvance => ?_
    refine checked hadvance (fun _ => id) (by nofun) (fun _ => ⟨rfl, rfl, rfl⟩) rfl fun status hok => ?_
    subst hok
    refine staged .start (hadvance.snoc rfl) fun hstart => ?_
    have hlast : StartsLast (ClientCall.upToStart plan image current imageHandle
        ++ [.startImage imageHandle]) := by
      intro other hmem
      obtain rfl : other = imageHandle := by
        rcases List.mem_append.mp hmem with hmem | hmem
        · exact absurd hmem (hstart.no_start other)
        · simpa using hmem
      exact ⟨plan, image, current, [], hlt, rfl, by simp⟩
    refine Triple.bind (announce_logged _ _ hlast) fun _ => ?_
    exact failRun_ended hstart id hlast ⟨rfl, rfl, rfl⟩ rfl (by nofun)
  · rename_i hnot
    refine failRun_ended hload ?_ (hload.starts.append (by simp)) ⟨rfl, ?_, rfl⟩ rfl ?_
    · rintro ⟨rfl, hsome⟩
      obtain ⟨imageHandle, rfl⟩ := Option.ne_none_iff_exists'.mp hsome
      exact hnot _ rfl rfl
    · cases imageHandle <;> rfl
    · split <;> simp_all

theorem recoveryClientFetch_ends (hcalls : calls = ClientCall.upToPlan plan) (hgoing : Going calls) :
    Triple (Logged calls) (recoveryClientFetch ops.traced plan) Ends Lost := by
  subst hcalls
  refine staged .allocate hgoing fun hallocate => ?_
  refine Triple.bind (record_logged _ _ hallocate.starts) fun ⟨status, image⟩ => ?_
  split
  · rename_i image hok hsome
    cases hok
    cases hsome
    refine staged .stream (hallocate.snoc ⟨rfl, by simp⟩) fun hstream => ?_
    refine checked hstream (fun _ => id) (by nofun) (fun _ => ⟨rfl, rfl, rfl⟩) rfl fun status hok => ?_
    subst hok
    refine staged .digest (hstream.snoc rfl) fun hdigest => ?_
    refine checked hdigest (fun _ => id) (by nofun) (fun _ => ⟨rfl, rfl, rfl⟩) rfl fun status hok => ?_
    subst hok
    have hverified : Going (_ ++ [.verifyDigest image plan.artifactSize plan.artifactDigest .ok]) :=
      hdigest.snoc rfl
    refine checked hverified (fun _ hne h => hne h.1) (by nofun) (fun _ => ⟨rfl, rfl, rfl⟩) rfl
      fun ⟨status, version⟩ hok => ?_
    subst hok
    refine Triple.ite (fun hle => ?_) fun hlt => ?_
    · refine failRun_ended hverified (fun h => ?_) (hverified.starts.append (by simp))
        ⟨rfl, rfl, rfl⟩ rfl (by nofun)
      exact BitVec.not_lt.mpr hle (h.2 plan (by simp [ClientCall.upToPlan]))
    refine recoveryClientBoot_ends rfl (hverified.snoc ⟨rfl, ?_⟩) (BitVec.not_le.mp hlt)
    simpa [ClientCall.upToPlan] using BitVec.not_le.mp hlt
  · rename_i hnot
    refine failRun_ended hallocate ?_ (hallocate.starts.append (by simp)) ⟨?_, rfl, rfl⟩ rfl ?_
    · rintro ⟨rfl, hsome⟩
      obtain ⟨image, rfl⟩ := Option.ne_none_iff_exists'.mp hsome
      exact hnot _ rfl rfl
    · cases image with
      | none => cases status <;> rfl
      | some image =>
        cases status
        case ok => exact absurd rfl (hnot image rfl)
        all_goals rfl
    · split <;> simp_all

theorem recoveryClientRun_ends : Triple (Logged []) (recoveryClientRun ops.traced) Ends Lost := by
  have hnil : Going ([] : List (ClientCall ι κ)) := by
    intro before call after heq
    simp at heq
  refine staged .confirm hnil fun hconfirm => ?_
  refine checked hconfirm (fun _ hne h => hne h.1) (by nofun) (fun _ => ⟨rfl, rfl, rfl⟩) rfl
    fun ⟨status, accepted⟩ hok => ?_
  subst hok
  refine Triple.ite (fun hno => ?_) fun hyes => ?_
  · exact failRun_ended hconfirm (fun h => Bool.false_ne_true (hno.symm.trans h.2))
      (hconfirm.starts.append (by simp)) ⟨rfl, rfl, rfl⟩ rfl (by nofun)
  obtain rfl : accepted = true := Bool.not_eq_false _ ▸ hyes
  have hconfirmed : Going (_ ++ [.confirm .ok true]) := hconfirm.snoc ⟨rfl, rfl⟩
  refine checked hconfirmed (fun _ => id) (by nofun) (fun _ => ⟨rfl, rfl, rfl⟩) rfl fun status hok => ?_
  subst hok
  refine staged .time (hconfirmed.snoc rfl) fun htime => ?_
  refine checked htime (fun _ => id) (by nofun) (fun _ => ⟨rfl, rfl, rfl⟩) rfl fun status hok => ?_
  subst hok
  refine staged .manifest (htime.snoc rfl) fun hmanifest => ?_
  refine checked hmanifest (fun _ hne h => hne h.1) (by nofun) (fun _ => ⟨rfl, rfl, rfl⟩) rfl
    fun ⟨status, plan⟩ hok => ?_
  subst hok
  refine Triple.ite (fun hbad => ?_) fun hgood => ?_
  · exact failRun_ended hmanifest (fun h => h.2 hbad) (hmanifest.starts.append (by simp))
      ⟨rfl, rfl, rfl⟩ rfl (by nofun)
  exact recoveryClientFetch_ends rfl (hmanifest.snoc ⟨rfl, hgood⟩)

end Log

end Pbns
