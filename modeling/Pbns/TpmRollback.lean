/-
The version counter in the TPM (`src/uefi/Library/PbnsAntiRollbackLib/PbnsAntiRollbackTpm.c`):
reading it, advancing it and setting it up.

The TPM answers each attempt at a command with a reply that may hold anything; `handle` is what
the caller's handle variable holds after the call.  The commands that authorize the write are a
sequence of steps over the variables of `execute_policy`.

* `policySteps_write` — a write comes behind every step of the authorization;
* `policySteps_handles` — the handles obtained are in the variables the cleanup looks at;
* `tpm_rollback` — an advance or an initialization writes only what was authorized.
-/
import Pbns.CommandRun
import Pbns.RecoveryPolicy

namespace Pbns.Policy

open Octets Guard Commands

/-! ### Commands -/

abbrev Handle := BitVec 32

/-- `TPM2_RH_NULL`, the handle of nothing. -/
def rhNull : Handle := 0x40000007#32

def policyNonceSize : ℕ := 32

/-- `PBNS_TPM_RETRY_LIMIT` attempts are this many retries. -/
def retries : ℕ := 2

/-- The TPM commands, with the parameters that are not fixed.  The session of `NV_Write` is the
one that authorizes it; the others are authorized by the empty owner password or not at all. -/
inductive Command
  | nvReadPublic (nvIndex : BitVec 32)
  | nvRead (nvIndex : BitVec 32) (size offset : ℕ)
  | nvDefineSpace (nvPublic : NvPublic)
  | getRandom (size : ℕ)
  | startAuthSession (nonceCaller : Octets)
  | policyNvWritten (session : Handle) (written : Bool)
  | policyNv (nvIndex : BitVec 32) (session : Handle) (operand : Octets) (offset operation : BitVec 16)
  | policyCpHash (session : Handle) (cpHash : PolicyDigest)
  | loadExternal (inPublic : TpmPublic)
  | verifySignature (keyHandle : Handle) (digest : PolicyDigest) (signature : TpmSignature)
  | policyAuthorize (session : Handle) (approvedPolicy : PolicyDigest) (policyRef keyName : Octets)
      (ticket : Octets)
  | nvWrite (nvIndex : BitVec 32) (session : Handle) (data : Octets) (offset : BitVec 16)
  | flushContext (handle : Handle)

/-- What a call leaves in the caller's variables; each command looks at its own. -/
structure Reply where
  rc : BitVec 32
  nvPublic : NvPublic
  name : Octets
  data : Octets
  handle : Handle
  ticket : Octets

abbrev Event := Command × Reply

/-- `missing_handle` -/
def missingHandle (rc : BitVec 32) : Bool := rc &&& 0x000000bf#32 = rcHandle

section Operations

variable {σ : Type} (tss : Tss) (tpm : Command → σ → Reply × σ) (context : TpmContext)

/-- `retry_command`, but for the count. -/
def retryCommand (reply : Reply) : Bool := commandRetryable reply.rc && context.bootServices

/-- `PBNS_TPM_EXECUTE` -/
def tpmExecute (c : Command) (m : Attended Command Reply σ) : Reply × Attended Command Reply σ :=
  execute tpm (retryCommand context) c retries m

/-! ### Reading and defining the index -/

/-- The test of `read_current` on the public area. -/
def indexAccepted (area : NvArea) : Bool :=
  area.nvIndex = recoveryNvIndex && area.nameAlg = algSha256 && area.attributes = nvAttributes true &&
    area.dataSize = 8#16 && area.authPolicy = context.expectedFinalPolicy.toList

/-- The second half of `read_current`. -/
def readVersion (m : Attended Command Reply σ) :
    Except Status (BitVec 64) × Attended Command Reply σ :=
  let answer := tpmExecute tpm context (.nvRead recoveryNvIndex 8 0) m
  if answer.1.rc ≠ rcSuccess then (.error (tssStatus answer.1.rc), answer.2)
  else if answer.1.data.length ≠ 8 then (.error .errFormat, answer.2)
  else (.ok (readU64Be answer.1.data), answer.2)

/-- `read_current` -/
def readCurrent (m : Attended Command Reply σ) :
    Except Status (BitVec 64) × Attended Command Reply σ :=
  let answer := tpmExecute tpm context (.nvReadPublic recoveryNvIndex) m
  if answer.1.rc ≠ rcSuccess then (.error (tssStatus answer.1.rc), answer.2)
  else if indexAccepted context answer.1.nvPublic.nvPublic = false then
    (.error .errAuthentication, answer.2)
  else readVersion tpm context answer.2

/-- The reply shows the index as the authorization has it. -/
def indexMatches (a : Authorization) (reply : Reply) : Bool :=
  nvPublicEqual tss reply.nvPublic a.nvPublic && namesEqual reply.name a.nvName

/-- `validate_existing`, which is also the end of `define_if_absent`. -/
def validateExisting (a : Authorization) (m : Attended Command Reply σ) :
    Status × Attended Command Reply σ :=
  let answer := tpmExecute tpm context (.nvReadPublic recoveryNvIndex) m
  (if answer.1.rc = rcSuccess ∧ indexMatches tss a answer.1 = true then .ok else .errAuthentication,
    answer.2)

/-- `define_if_absent` -/
def defineIfAbsent (a : Authorization) (m : Attended Command Reply σ) :
    Status × Attended Command Reply σ :=
  let answer := tpmExecute tpm context (.nvReadPublic recoveryNvIndex) m
  if answer.1.rc = rcSuccess then
    (if indexMatches tss a answer.1 = true then .ok else .errAuthentication, answer.2)
  else if missingHandle answer.1.rc = false then (tssStatus answer.1.rc, answer.2)
  else
    let defined := tpmExecute tpm context (.nvDefineSpace a.nvPublic) answer.2
    if defined.1.rc ≠ rcSuccess then (tssStatus defined.1.rc, defined.2)
    else validateExisting tss tpm context a defined.2

/-! ### The policy session -/

/-- The variables of `execute_policy` that one command leaves for another. -/
structure PolicyVars where
  nonceCaller : Octets
  session : Handle
  keyHandle : Handle
  ticket : Octets

def PolicyVars.init : PolicyVars := ⟨[], rhNull, rhNull, []⟩

abbrev PolicyStep := Step Command Reply PolicyVars Status

/-- `if (result != TSS2_RC_SUCCESS)` -/
def rcVerdict (reply : Reply) : Option Status :=
  if reply.rc = rcSuccess then none else some (tssStatus reply.rc)

def randomStep : PolicyStep where
  command _ := .getRandom policyNonceSize
  after v reply := { v with nonceCaller := reply.data }
  verdict _ reply := (rcVerdict reply).or
    (if reply.data.length = policyNonceSize then none else some .errFormat)

def startStep : PolicyStep where
  command v := .startAuthSession v.nonceCaller
  after v reply := { v with session := reply.handle }
  verdict _ := rcVerdict

/-- The command that checks the index: not yet written, or below the operand. -/
def checkCommand (a : Authorization) (session : Handle) : Command :=
  if a.kind = .initialization then .policyNvWritten session false
  else .policyNv recoveryNvIndex session a.operand.toList a.offset a.operation

def checkStep (a : Authorization) : PolicyStep where
  command v := checkCommand a v.session
  after v _ := v
  verdict _ := rcVerdict

def cpHashStep (a : Authorization) : PolicyStep where
  command v := .policyCpHash v.session a.cpHash
  after v _ := v
  verdict _ := rcVerdict

def loadStep (a : Authorization) : PolicyStep where
  command _ := .loadExternal a.policyKeyPublic
  after v reply := { v with keyHandle := reply.handle }
  verdict _ reply := (rcVerdict reply).or
    (if namesEqual reply.name a.policyKeyName then none else some .errAuthentication)

/-- `approval_digest` -/
def approvalDigest (a : Authorization) : PolicyDigest :=
  sha256Parts tss [a.approvedPolicy.toList, a.policyRef]

def verifyStep (a : Authorization) : PolicyStep where
  command v := .verifySignature v.keyHandle (approvalDigest tss a) a.signature
  after v reply := { v with ticket := reply.ticket }
  verdict _ := rcVerdict

def authorizeStep (a : Authorization) : PolicyStep where
  command v := .policyAuthorize v.session a.approvedPolicy a.policyRef a.policyKeyName v.ticket
  after v _ := v
  verdict _ := rcVerdict

def writeStep (a : Authorization) : PolicyStep where
  command v := .nvWrite recoveryNvIndex v.session a.operand.toList a.offset
  after v _ := v
  verdict _ := rcVerdict

/-- What has to go through before the write. -/
def approvalSteps (a : Authorization) : List PolicyStep :=
  [randomStep, startStep, checkStep a, cpHashStep a, loadStep a, verifyStep tss a, authorizeStep a]

def policySteps (a : Authorization) : List PolicyStep := approvalSteps tss a ++ [writeStep a]

/-- A handle of the cleanup: flushed if there is one, and an error if that fails. -/
def flushHandle (handle : Handle) (status : Status) (m : Attended Command Reply σ) :
    Status × Attended Command Reply σ :=
  if handle = rhNull then (status, m)
  else
    let answer := tpmExecute tpm context (.flushContext handle) m
    (if answer.1.rc ≠ rcSuccess then .errCrypto else status, answer.2)

/-- `execute_policy` from the first command of the session to the end of the cleanup. -/
def policySession (a : Authorization) (m : Attended Command Reply σ) :
    Status × Attended Command Reply σ :=
  let run := runSteps tpm (retryCommand context) retries (policySteps tss a) .init m
  let flushed := flushHandle tpm context run.2.1.keyHandle (run.1.getD .ok) run.2.2
  flushHandle tpm context run.2.1.session flushed.1 flushed.2

/-- The end of `execute_policy`: the value has to be the target. -/
def readBack (a : Authorization) (m : Attended Command Reply σ) : Status × Attended Command Reply σ :=
  match readCurrent tpm context m with
  | (.ok version, m) => (if version = a.targetVersion then .ok else .errState, m)
  | (.error _, m) => (.errState, m)

/-- The index as the authorization wants it, by its kind. -/
def prepareIndex (a : Authorization) (m : Attended Command Reply σ) : Status × Attended Command Reply σ :=
  if a.kind = .initialization then defineIfAbsent tss tpm context a m
  else validateExisting tss tpm context a m

/-- `execute_policy` -/
def executePolicy (a : Authorization) (m : Attended Command Reply σ) :
    Status × Attended Command Reply σ :=
  match verifyPublicCalculations tss context a with
  | .error status => (status, m)
  | .ok () =>
    match prepareIndex tss tpm context a m with
    | (.ok, m) =>
      match policySession tss tpm context a m with
      | (.ok, m) => readBack tpm context a m
      | (status, m) => (status, m)
    | (status, m) => (status, m)

variable (read : Octets → Option Cbor.Item)

/-- `advance_tpm` -/
def advanceTpm (currentVersion targetVersion : BitVec 64) (authorization : Octets)
    (m : Attended Command Reply σ) : Status × Attended Command Reply σ :=
  match decodeChecked tss read authorization context.scratch with
  | .error status => (status, m)
  | .ok decoded =>
    if decoded.kind ≠ .update ∨ decoded.targetVersion ≠ targetVersion then (.errAuthentication, m)
    else
      match readCurrent tpm context m with
      | (.error status, m) => (status, m)
      | (.ok current, m) =>
        if current ≠ currentVersion ∨ targetVersion ≤ current then (.errReplay, m)
        else executePolicy tss tpm context decoded m

/-- `PbnsAntiRollbackTpmInitialize`: the version of the state it leaves, or nothing with
`EFI_SECURITY_VIOLATION`. -/
def tpmInitialize (authorization : Octets) (m : Attended Command Reply σ) :
    Option (BitVec 64) × Attended Command Reply σ :=
  match decodeChecked tss read authorization context.scratch with
  | .error _ => (none, m)
  | .ok decoded =>
    if decoded.kind ≠ .initialization then (none, m)
    else
      match executePolicy tss tpm context decoded m with
      | (.ok, m) =>
        match readCurrent tpm context m with
        | (.ok version, m) => (if version = decoded.targetVersion then some version else none, m)
        | (.error _, m) => (none, m)
      | (_, m) => (none, m)

end Operations

/-! ### What each part logs -/

/-- What a command is for. -/
inductive Purpose
  | read
  | define
  | approve
  | write
  | flush

def Command.purpose : Command → Purpose
  | .nvReadPublic _ => .read
  | .nvRead _ _ _ => .read
  | .nvDefineSpace _ => .define
  | .nvWrite _ _ _ _ => .write
  | .flushContext _ => .flush
  | _ => .approve

/-- The handle of a session or a key that a call obtained: one that is not null, from a call the
TPM did not ask to repeat. -/
def obtained : Event → Option Handle
  | (.startAuthSession _, reply) =>
    if commandRetryable reply.rc = false ∧ reply.handle ≠ rhNull then some reply.handle else none
  | (.loadExternal _, reply) =>
    if commandRetryable reply.rc = false ∧ reply.handle ≠ rhNull then some reply.handle else none
  | _ => none

/-- An event of a command for this. -/
def Of (purpose : Purpose) (e : Event) : Prop := e.1.purpose = purpose

theorem obtained_of_approve {e : Event} {handle : Handle} (h : obtained e = some handle) :
    Of .approve e := by
  unfold obtained at h
  split at h
  · rfl
  · rfl
  · cases h

/-- The events are all of commands for one of these. -/
def Only (purposes : List Purpose) (events : List Event) : Prop :=
  ∀ e ∈ events, e.1.purpose ∈ purposes

section Only

variable {ps qs : List Purpose} {xs ys : List Event}

theorem Only.ne {p : Purpose} (h : Only ps xs) (hp : p ∉ ps) : ∀ e ∈ xs, ¬ Of p e := by
  rintro e he rfl
  exact hp (h e he)

theorem Only.mono (h : Only ps xs) (hsub : ps ⊆ qs) : Only qs xs := fun e he => hsub (h e he)

theorem Only.append (hxs : Only ps xs) (hys : Only ps ys) : Only ps (xs ++ ys) :=
  List.forall_mem_append.mpr ⟨hxs, hys⟩

theorem Only.single {p : Purpose} (h : Only [p] xs) : ∀ e ∈ xs, Of p e :=
  fun e he => List.mem_singleton.mp (h e he)

end Only

section Log

variable {σ : Type} {tss : Tss} {tpm : Command → σ → Reply × σ} {context : TpmContext}
variable {m m' : Attended Command Reply σ} {status : Status} {a : Authorization}
variable {events front prepared session back : List Event} {reply : Reply}

theorem tpmExecute_log {c : Command} (h : tpmExecute tpm context c m = (reply, m')) :
    ∃ events, m'.log = m.log ++ events ∧ Attempts (retryCommand context) c reply events ∧
      Only [c.purpose] events := by
  obtain ⟨events, hlog, hattempts⟩ := execute_log h
  refine ⟨events, hlog, hattempts, fun e he => ?_⟩
  rw [hattempts.command he]
  exact List.mem_cons_self

/-- The last event has read this version. -/
def EndsReading (version : BitVec 64) (events : List Event) : Prop :=
  ∃ front reply, events = front ++ [(.nvRead recoveryNvIndex 8 0, reply)] ∧ reply.rc = rcSuccess ∧
    reply.data = writeU64Be version

theorem readVersion_log {result : Except Status (BitVec 64)}
    (h : readVersion tpm context m = (result, m')) :
    ∃ events, m'.log = m.log ++ events ∧ Only [.read] events ∧ result ≠ .error .ok ∧
      ∀ version, result = .ok version → EndsReading version events := by
  obtain ⟨⟨reply, m₁⟩, hread⟩ : ∃ answer, tpmExecute tpm context (.nvRead recoveryNvIndex 8 0) m = answer :=
    ⟨_, rfl⟩
  obtain ⟨events, hlog, ⟨tries, rfl, -⟩, hreads⟩ := tpmExecute_log hread
  rw [readVersion, hread] at h
  dsimp only at h
  split_ifs at h with hfailed hsize <;> cases h
  · exact ⟨_, hlog, hreads, fun h => tssStatus_ne_ok hfailed (Except.error.inj h), by nofun⟩
  · exact ⟨_, hlog, hreads, by nofun, by nofun⟩
  · refine ⟨_, hlog, hreads, by nofun, fun version h => ?_⟩
    cases h
    exact ⟨tries, reply, rfl, not_not.mp hfailed, (writeU64Be_readU64Be (not_not.mp hsize)).symm⟩

/-- `read_current` only reads, and a value it returns is what the last command read. -/
theorem readCurrent_log {result : Except Status (BitVec 64)}
    (h : readCurrent tpm context m = (result, m')) :
    ∃ events, m'.log = m.log ++ events ∧ Only [.read] events ∧ result ≠ .error .ok ∧
      ∀ version, result = .ok version → EndsReading version events := by
  obtain ⟨⟨reply, m₁⟩, hpublic⟩ :
    ∃ answer, tpmExecute tpm context (.nvReadPublic recoveryNvIndex) m = answer := ⟨_, rfl⟩
  obtain ⟨first, hfirst, -, hreads⟩ := tpmExecute_log hpublic
  rw [readCurrent, hpublic] at h
  dsimp only at h
  split_ifs at h with hrc harea
  · cases h
    exact ⟨first, hfirst, hreads, fun h => tssStatus_ne_ok hrc (Except.error.inj h), by nofun⟩
  · cases h
    exact ⟨first, hfirst, hreads, by nofun, by nofun⟩
  · obtain ⟨second, hsecond, hreads', hne, hvalue⟩ := readVersion_log h
    refine ⟨first ++ second, by rw [hsecond, hfirst, List.append_assoc], hreads.append hreads', hne, ?_⟩
    intro version hok
    obtain ⟨tries, reply, rfl, hread⟩ := hvalue version hok
    exact ⟨first ++ tries, reply, (List.append_assoc _ _ _).symm, hread⟩

variable (tss) in
/-- The index has been seen as the authorization has it. -/
def IndexSeen (a : Authorization) (events : List Event) : Prop :=
  ∃ reply, (.nvReadPublic recoveryNvIndex, reply) ∈ events ∧ reply.rc = rcSuccess ∧
    indexMatches tss a reply = true

/-- Every definition is of this index and comes after the TPM said that it is missing. -/
def DefinesMissing (a : Authorization) (events : List Event) : Prop :=
  ∀ before nvPublic reply after, events = before ++ (.nvDefineSpace nvPublic, reply) :: after →
    nvPublic = a.nvPublic ∧ ∃ missing, (.nvReadPublic recoveryNvIndex, missing) ∈ before ∧
      missing.rc ≠ rcSuccess ∧ missingHandle missing.rc = true

theorem validateExisting_log (h : validateExisting tss tpm context a m = (status, m')) :
    ∃ events, m'.log = m.log ++ events ∧ Only [.read] events ∧
      (status = .ok → IndexSeen tss a events) := by
  obtain ⟨⟨reply, m₁⟩, hpublic⟩ :
    ∃ answer, tpmExecute tpm context (.nvReadPublic recoveryNvIndex) m = answer := ⟨_, rfl⟩
  obtain ⟨events, hlog, hattempts, hreads⟩ := tpmExecute_log hpublic
  rw [validateExisting, hpublic] at h
  cases h
  refine ⟨events, hlog, hreads, fun hok => ?_⟩
  split_ifs at hok with hmatch
  exact ⟨reply, hattempts.mem, hmatch⟩

/-- What is so of the events before the session. -/
structure Prepared (a : Authorization) (events : List Event) : Prop where
  only : Only [.read, .define] events
  define : DefinesMissing a events
  initializes : ∀ e ∈ events, Of .define e → a.kind = .initialization

theorem Prepared.of_reads (h : Only [.read] events) : Prepared a events where
  only := h.mono (by simp)
  define := by
    rintro before nvPublic reply after rfl
    exact absurd rfl (h.ne (p := .define) (by simp) _ (List.mem_append_right _ List.mem_cons_self))
  initializes e he hdefine := absurd hdefine (h.ne (by simp) e he)

theorem Prepared.after_reads (hfront : Only [.read] front) (h : Prepared a events) :
    Prepared a (front ++ events) where
  only := (hfront.mono (by simp)).append h.only
  define := by
    intro before nvPublic reply after hevents
    obtain ⟨inner, rfl, hinner⟩ := split_front (Of .define) (hfront.ne (by simp)) hevents rfl
    obtain ⟨hpublic, missing, hmem, hmissing⟩ := h.define inner nvPublic reply after hinner
    exact ⟨hpublic, missing, List.mem_append_right _ hmem, hmissing⟩
  initializes e he hdefine := by
    rcases List.mem_append.mp he with he | he
    · exact absurd hdefine (hfront.ne (by simp) e he)
    · exact h.initializes e he hdefine

/-- A definition stands behind the report that the index is missing, whatever is read afterwards. -/
theorem Prepared.of_missing (hkind : a.kind = .initialization) (hreads : Only [.read] front)
    (hmem : (.nvReadPublic recoveryNvIndex, reply) ∈ front) (hrc : reply.rc ≠ rcSuccess)
    (hmissing : missingHandle reply.rc = true) (honly : Only [.define] events)
    (hdefines : ∀ e ∈ events, e.1 = .nvDefineSpace a.nvPublic) (hback : Only [.read] back) :
    Prepared a (front ++ (events ++ back)) where
  only := (hreads.mono (by simp)).append ((honly.mono (by simp)).append (hback.mono (by simp)))
  define := by
    intro before nvPublic reply' after hevents
    obtain ⟨inner, rfl, hinner⟩ := split_front (Of .define) (hreads.ne (by simp)) hevents rfl
    obtain ⟨rest, rfl, -⟩ := split_back (Of .define) (hback.ne (by simp)) hinner rfl
    have heq := hdefines _ (List.mem_append_right _ List.mem_cons_self)
    cases heq
    exact ⟨rfl, reply, List.mem_append_left _ hmem, hrc, hmissing⟩
  initializes _ _ _ := hkind

theorem defineIfAbsent_log (hkind : a.kind = .initialization)
    (h : defineIfAbsent tss tpm context a m = (status, m')) :
    ∃ events, m'.log = m.log ++ events ∧ Prepared a events ∧ (status = .ok → IndexSeen tss a events) := by
  obtain ⟨⟨reply, m₁⟩, hpublic⟩ :
    ∃ answer, tpmExecute tpm context (.nvReadPublic recoveryNvIndex) m = answer := ⟨_, rfl⟩
  obtain ⟨⟨defined, m₂⟩, hdefine⟩ :
    ∃ answer, tpmExecute tpm context (.nvDefineSpace a.nvPublic) m₁ = answer := ⟨_, rfl⟩
  obtain ⟨first, hfirst, hattempts, hreads⟩ := tpmExecute_log hpublic
  obtain ⟨second, hsecond, hdefines, honly⟩ := tpmExecute_log hdefine
  rw [defineIfAbsent, hpublic] at h
  dsimp only at h
  rw [hdefine] at h
  split_ifs at h with hrc hmatch hmissing hfailed
  · cases h
    exact ⟨first, hfirst, .of_reads hreads, fun _ => ⟨reply, hattempts.mem, hrc, hmatch⟩⟩
  · cases h
    exact ⟨first, hfirst, .of_reads hreads, by nofun⟩
  · cases h
    exact ⟨first, hfirst, .of_reads hreads, fun hok => absurd hok (tssStatus_ne_ok hrc)⟩
  · cases h
    have hprepared := Prepared.of_missing hkind hreads hattempts.mem hrc
      (Bool.of_not_eq_false hmissing) honly (fun e he => hdefines.command he) (by nofun : Only [.read] [])
    rw [List.append_nil] at hprepared
    refine ⟨first ++ second, by rw [hsecond, hfirst, List.append_assoc], hprepared, fun hok => ?_⟩
    exact absurd hok (tssStatus_ne_ok hfailed)
  · obtain ⟨third, hthird, hthirdReads, hok⟩ := validateExisting_log h
    refine ⟨first ++ (second ++ third), ?_, .of_missing hkind hreads hattempts.mem hrc
      (Bool.of_not_eq_false hmissing) honly (fun e he => hdefines.command he) hthirdReads, fun h => ?_⟩
    · rw [hthird, hsecond, hfirst, List.append_assoc, List.append_assoc]
    · obtain ⟨seen, hmem, hgood⟩ := hok h
      exact ⟨seen, List.mem_append_right _ (List.mem_append_right _ hmem), hgood⟩

theorem prepareIndex_log (h : prepareIndex tss tpm context a m = (status, m')) :
    ∃ events, m'.log = m.log ++ events ∧ Prepared a events ∧ (status = .ok → IndexSeen tss a events) := by
  rw [prepareIndex] at h
  split_ifs at h with hkind
  · exact defineIfAbsent_log hkind h
  · obtain ⟨events, hlog, hreads, hok⟩ := validateExisting_log h
    exact ⟨events, hlog, .of_reads hreads, hok⟩

/-! ### The policy session -/

section Approval

variable (tss)

/-- The commands of the authorization, in their order, with the replies they got. -/
def approval (a : Authorization) (session : Handle)
    (random start check cpHash load verify authorize : Reply) : List Event :=
  [(.getRandom policyNonceSize, random), (.startAuthSession random.data, start),
    (checkCommand a session, check), (.policyCpHash session a.cpHash, cpHash),
    (.loadExternal a.policyKeyPublic, load),
    (.verifySignature load.handle (approvalDigest tss a) a.signature, verify),
    (.policyAuthorize session a.approvedPolicy a.policyRef a.policyKeyName verify.ticket, authorize)]

/-- The session has been authorized: each command succeeded, in their order. -/
def Approved (a : Authorization) (session : Handle) (events : List Event) : Prop :=
  ∃ random start check cpHash load verify authorize,
    (approval tss a session random start check cpHash load verify authorize).Sublist events ∧
    (∀ reply ∈ [random, start, check, cpHash, load, verify, authorize], reply.rc = rcSuccess) ∧
    random.data.length = policyNonceSize ∧ start.handle = session ∧
    namesEqual load.name a.policyKeyName = true

/-- Every write is of the operand, to the index, in a session that was authorized before. -/
def WritesApproved (a : Authorization) (events : List Event) : Prop :=
  ∀ before nvIndex session data offset reply after,
    events = before ++ (.nvWrite nvIndex session data offset, reply) :: after →
      nvIndex = recoveryNvIndex ∧ data = a.operand.toList ∧ offset = a.offset ∧
        Approved tss a session before

/-- The operand has been written. -/
def Written (a : Authorization) (events : List Event) : Prop :=
  ∃ session reply, (.nvWrite recoveryNvIndex session a.operand.toList a.offset, reply) ∈ events ∧
    reply.rc = rcSuccess

end Approval

theorem rcVerdict_eq_none (h : rcVerdict reply = none) : reply.rc = rcSuccess := by
  unfold rcVerdict at h
  split_ifs at h with hrc
  exact hrc

theorem Approved.of_passed {passed : List Event} {v : PolicyVars}
    (h : Accepted (approvalSteps tss a) .init passed v) (hsub : passed.Sublist events) :
    Approved tss a v.session events := by
  unfold approvalSteps at h
  rcases h with _ | ⟨hrandom, _ | ⟨hstart, _ | ⟨hcheck, _ | ⟨hcpHash, _ | ⟨hload, _ | ⟨hverify, _ |
    ⟨hauthorize, _ | _⟩⟩⟩⟩⟩⟩⟩
  obtain ⟨hrandom, hsize⟩ := Option.or_eq_none_iff.mp hrandom
  obtain ⟨hload, hname⟩ := Option.or_eq_none_iff.mp hload
  refine ⟨_, _, _, _, _, _, _, hsub, ?_, ?_, rfl, ?_⟩
  · intro reply hreply
    simp only [List.mem_cons, List.not_mem_nil, or_false] at hreply
    rcases hreply with rfl | rfl | rfl | rfl | rfl | rfl | rfl
    · exact rcVerdict_eq_none hrandom
    · exact rcVerdict_eq_none hstart
    · exact rcVerdict_eq_none hcheck
    · exact rcVerdict_eq_none hcpHash
    · exact rcVerdict_eq_none hload
    · exact rcVerdict_eq_none hverify
    · exact rcVerdict_eq_none hauthorize
  · split_ifs at hsize with h
    exact h
  · split_ifs at hname with h
    exact h

theorem approvalSteps_only (h : ∀ e ∈ events, IssuedBy (approvalSteps tss a) e) :
    Only [.approve] events := by
  intro e he
  obtain ⟨step, hstep, v, hcommand⟩ := h e he
  rw [hcommand, List.mem_singleton]
  simp only [approvalSteps, List.mem_cons, List.not_mem_nil, or_false] at hstep
  rcases hstep with rfl | rfl | rfl | rfl | rfl | rfl | rfl
  case inr.inr.inl =>
    change (checkCommand a v.session).purpose = .approve
    unfold checkCommand
    split <;> rfl
  all_goals rfl

variable {error : Option Status} {v : PolicyVars}

/-- **A write comes behind every step of the authorization**, and it is of the operand. -/
theorem policySteps_write
    (h : runSteps tpm (retryCommand context) retries (policySteps tss a) .init m = (error, v, m')) :
    ∃ events, m'.log = m.log ++ events ∧ Only [.approve, .write] events ∧ WritesApproved tss a events ∧
      (error = none → Written a events) := by
  rcases runSteps_append h with ⟨happroval, hne⟩ | ⟨v₁, m₁, happroval, hlast⟩
  · obtain ⟨front, hfront, hissued, -⟩ := runSteps_log happroval
    have happrove := approvalSteps_only hissued
    refine ⟨front, hfront, happrove.mono (by simp), ?_, fun h => absurd h hne⟩
    rintro before nvIndex session data offset reply after rfl
    exact absurd rfl (happrove.ne (p := .write) (by simp) _ (List.mem_append_right _ List.mem_cons_self))
  · obtain ⟨front, hfront, hissued, hpassed, -⟩ := runSteps_log happroval
    have happrove := approvalSteps_only hissued
    obtain ⟨passed, hsteps, hsub⟩ := hpassed rfl
    obtain ⟨reply, m₂, tries, hlog, htries, hcase⟩ := runSteps_cons hlast
    obtain ⟨rfl, hrc⟩ : m' = m₂ ∧ (error = none → reply.rc = rcSuccess) := by
      rcases hcase with ⟨-, hne, -, rfl⟩ | ⟨hverdict, hend⟩
      · exact ⟨rfl, fun h => absurd h hne⟩
      · cases hend
        exact ⟨rfl, fun _ => rcVerdict_eq_none hverdict⟩
    refine ⟨front ++ tries, by rw [hlog, hfront, List.append_assoc], ?_, ?_, fun hnone => ?_⟩
    · refine (happrove.mono (by simp)).append fun e he => ?_
      rw [htries.command he]
      exact List.mem_cons_of_mem _ List.mem_cons_self
    · intro before nvIndex session data offset reply after hevents
      obtain ⟨inner, rfl, rfl⟩ := split_front (Of .write) (happrove.ne (by simp)) hevents rfl
      have heq := htries.command (List.mem_append_right _ List.mem_cons_self)
      cases heq
      exact ⟨rfl, rfl, rfl, .of_passed hsteps (hsub.trans (List.sublist_append_left _ _))⟩
    · exact ⟨v₁.session, reply, List.mem_append_right _ htries.mem, hrc hnone⟩

/-- A session was started, and the TPM does not ask for another attempt. -/
def Starts (e : Event) : Prop :=
  (∃ nonceCaller, e.1 = .startAuthSession nonceCaller) ∧ commandRetryable e.2.rc = false

/-- A key was loaded, and the TPM does not ask for another attempt. -/
def Loads (e : Event) : Prop :=
  (∃ inPublic, e.1 = .loadExternal inPublic) ∧ commandRetryable e.2.rc = false

theorem obtained_cases {e : Event} {handle : Handle} (h : obtained e = some handle) :
    (Starts e ∨ Loads e) ∧ e.2.handle = handle ∧ handle ≠ rhNull := by
  unfold obtained at h
  split at h
  · split_ifs at h with hcall
    cases h
    exact ⟨.inl ⟨⟨_, rfl⟩, hcall.1⟩, rfl, hcall.2⟩
  · split_ifs at h with hcall
    cases h
    exact ⟨.inr ⟨⟨_, rfl⟩, hcall.1⟩, rfl, hcall.2⟩
  · cases h

theorem retryCommand_of_final (h : commandRetryable reply.rc = false) :
    retryCommand context reply = false := by
  rw [retryCommand, h, Bool.false_and]

theorem checkCommand_ne (a : Authorization) (session : Handle) :
    (∀ nonceCaller, checkCommand a session ≠ .startAuthSession nonceCaller) ∧
      ∀ inPublic, checkCommand a session ≠ .loadExternal inPublic := by
  unfold checkCommand
  split <;> exact ⟨by nofun, by nofun⟩

/-- **The handles obtained are in the variables the cleanup looks at.** -/
theorem policySteps_handles
    (h : runSteps tpm (retryCommand context) retries (policySteps tss a) .init m = (error, v, m')) :
    ∃ events, m'.log = m.log ++ events ∧
      ∀ e ∈ events, ∀ handle, obtained e = some handle → handle = v.session ∨ handle = v.keyHandle := by
  have hcheck := fun v : PolicyVars => checkCommand_ne a v.session
  obtain ⟨events, hlog, hsession⟩ := runSteps_recorded PolicyVars.session Reply.handle Starts
    [randomStep] startStep
    [checkStep a, cpHashStep a, loadStep a, verifyStep tss a, authorizeStep a, writeStep a]
    (by
      simp only [List.mem_singleton, forall_eq]
      rintro v reply ⟨⟨_, h⟩, -⟩
      cases h)
    (by
      simp only [List.mem_cons, List.not_mem_nil, or_false, forall_eq_or_imp, forall_eq]
      refine ⟨?_, ?_, ?_, ?_, ?_, ?_⟩ <;> rintro v reply ⟨⟨nonceCaller, h⟩, -⟩
      · exact (hcheck v).1 nonceCaller h
      all_goals cases h)
    (fun _ _ => rfl)
    (by
      simp only [List.mem_cons, List.not_mem_nil, or_false, forall_eq_or_imp, forall_eq]
      exact ⟨fun _ _ => rfl, fun _ _ => rfl, fun _ _ => rfl, fun _ _ => rfl, fun _ _ => rfl,
        fun _ _ => rfl⟩)
    (fun e h => retryCommand_of_final h.2) h
  obtain ⟨events', hlog', hkey⟩ := runSteps_recorded PolicyVars.keyHandle Reply.handle Loads
    [randomStep, startStep, checkStep a, cpHashStep a] (loadStep a)
    [verifyStep tss a, authorizeStep a, writeStep a]
    (by
      simp only [List.mem_cons, List.not_mem_nil, or_false, forall_eq_or_imp, forall_eq]
      refine ⟨?_, ?_, ?_, ?_⟩ <;> rintro v reply ⟨⟨inPublic, h⟩, -⟩
      case refine_3 => exact (hcheck v).2 inPublic h
      all_goals cases h)
    (by
      simp only [List.mem_cons, List.not_mem_nil, or_false, forall_eq_or_imp, forall_eq]
      refine ⟨?_, ?_, ?_⟩ <;> rintro v reply ⟨⟨inPublic, h⟩, -⟩ <;> cases h)
    (fun _ _ => rfl)
    (by
      simp only [List.mem_cons, List.not_mem_nil, or_false, forall_eq_or_imp, forall_eq]
      exact ⟨fun _ _ => rfl, fun _ _ => rfl, fun _ _ => rfl⟩)
    (fun e h => retryCommand_of_final h.2) h
  obtain rfl : events' = events := List.append_cancel_left (hlog'.symm.trans hlog)
  refine ⟨events', hlog, fun e he handle h => ?_⟩
  obtain ⟨hstarts | hloads, rfl, -⟩ := obtained_cases h
  · exact .inl (hsession e he hstarts)
  · exact .inr (hkey e he hloads)

theorem rcVerdict_ne_ok (h : rcVerdict reply = some status) :
    status ≠ .ok := by
  unfold rcVerdict at h
  split_ifs at h with hrc
  cases h
  exact tssStatus_ne_ok hrc

theorem policySteps_verdict {step : PolicyStep} (hstep : step ∈ policySteps tss a) {v : PolicyVars}
    (h : step.verdict v reply = some status) :
    status ≠ .ok := by
  simp only [policySteps, approvalSteps, List.cons_append, List.nil_append, List.mem_cons,
    List.not_mem_nil, or_false] at hstep
  have hor : ∀ {c : Prop} [Decidable c] {e : Status}, e ≠ .ok →
      (rcVerdict reply).or (if c then none else some e) = some status → status ≠ .ok := by
    intro c _ e he h
    rcases Option.or_eq_some_iff.mp h with h | ⟨-, h⟩
    · exact rcVerdict_ne_ok h
    · split_ifs at h
      cases h
      exact he
  rcases hstep with rfl | rfl | rfl | rfl | rfl | rfl | rfl | rfl
  case inl => exact hor (by nofun) h
  case inr.inr.inr.inr.inl => exact hor (by nofun) h
  all_goals exact rcVerdict_ne_ok h

/-- A handle of the cleanup has been passed to a flush, unless it is null. -/
theorem flushHandle_log {handle : Handle} {status' : Status}
    (h : flushHandle tpm context handle status m = (status', m')) :
    ∃ events, m'.log = m.log ++ events ∧ Only [.flush] events ∧
      (handle ≠ rhNull → ∃ reply, (.flushContext handle, reply) ∈ events) ∧
      (status' = .ok → status = .ok) := by
  obtain ⟨⟨reply, m₁⟩, hflush⟩ : ∃ answer, tpmExecute tpm context (.flushContext handle) m = answer :=
    ⟨_, rfl⟩
  rw [flushHandle, hflush] at h
  split_ifs at h with hnull
  · cases h
    exact ⟨[], (List.append_nil _).symm, by nofun, fun h => absurd hnull h, id⟩
  · cases h
    obtain ⟨events, hlog, hattempts, hflushes⟩ := tpmExecute_log hflush
    refine ⟨events, hlog, hflushes, fun _ => ⟨reply, hattempts.mem⟩, fun hok => ?_⟩
    split_ifs at hok
    exact hok

/-- Every handle obtained is flushed later on. -/
def Flushed (events : List Event) : Prop :=
  ∀ before e after handle, events = before ++ e :: after → obtained e = some handle →
    ∃ reply, (.flushContext handle, reply) ∈ after

/-- What is so of the events of a session. -/
structure InSession (tss : Tss) (a : Authorization) (events : List Event) : Prop where
  only : Only [.approve, .write, .flush] events
  writes : WritesApproved tss a events
  flushed : Flushed events

theorem policySession_log (h : policySession tss tpm context a m = (status, m')) :
    ∃ events, m'.log = m.log ++ events ∧ InSession tss a events ∧ (status = .ok → Written a events) := by
  obtain ⟨⟨error, v, m₁⟩, hrun⟩ :
    ∃ run, runSteps tpm (retryCommand context) retries (policySteps tss a) .init m = run := ⟨_, rfl⟩
  obtain ⟨⟨status₁, m₂⟩, hkey⟩ :
    ∃ flushed, flushHandle tpm context v.keyHandle (error.getD .ok) m₁ = flushed := ⟨_, rfl⟩
  rw [policySession, hrun] at h
  dsimp only at h
  rw [hkey] at h
  obtain ⟨front, hfront, honly, hwrites, hwritten⟩ := policySteps_write hrun
  obtain ⟨front', hfront', hhandles⟩ := policySteps_handles hrun
  obtain rfl : front = front' := List.append_cancel_left (hfront.symm.trans hfront')
  obtain ⟨keyFlush, hkeyLog, hkeyOnly, hkeyFlushed, hkeyOk⟩ := flushHandle_log hkey
  obtain ⟨sessionFlush, hsessionLog, hsessionOnly, hsessionFlushed, hsessionOk⟩ := flushHandle_log h
  have hflushes := hkeyOnly.append hsessionOnly
  refine ⟨front ++ (keyFlush ++ sessionFlush), ?_, ⟨?_, ?_, ?_⟩, fun hok => ?_⟩
  · rw [hsessionLog, hkeyLog, hfront, List.append_assoc, List.append_assoc]
  · exact (honly.mono (by simp)).append (hflushes.mono (by simp))
  · intro before nvIndex session data offset reply after hevents
    obtain ⟨rest, hfront, -⟩ := split_back (Of .write) (hflushes.ne (by simp)) hevents rfl
    exact hwrites before nvIndex session data offset reply rest hfront
  · intro before e after handle hevents h
    obtain ⟨rest, rfl, rfl⟩ :=
      split_back (Of .approve) (hflushes.ne (by simp)) hevents (obtained_of_approve h)
    have hnull := (obtained_cases h).2.2
    rcases hhandles e (List.mem_append_right _ List.mem_cons_self) handle h with rfl | rfl
    · obtain ⟨reply, hreply⟩ := hsessionFlushed hnull
      exact ⟨reply, List.mem_append_right _ (List.mem_append_right _ hreply)⟩
    · obtain ⟨reply, hreply⟩ := hkeyFlushed hnull
      exact ⟨reply, List.mem_append_right _ (List.mem_append_left _ hreply)⟩
  · have hstatus := hkeyOk (hsessionOk hok)
    cases error with
    | none =>
      obtain ⟨session, reply, hreply, hrc⟩ := hwritten rfl
      exact ⟨session, reply, List.mem_append_left _ hreply, hrc⟩
    | some found =>
      obtain ⟨-, -, -, -, herror⟩ := runSteps_log hrun
      obtain ⟨step, hstep, v, reply, hverdict⟩ := herror found rfl
      exact absurd hstatus (policySteps_verdict hstep hverdict)

/-! ### Whole calls -/

section Whole

variable (tss context)

/-- The write in this session was authorized by what came before: what the authorization says
could be computed from the configured key, then the index was seen as it has it, then the session
was authorized. -/
def Authorized (a : Authorization) (session : Handle) (before : List Event) : Prop :=
  verifyPublicCalculations tss context a = .ok () ∧
    ∃ earlier later, before = earlier ++ later ∧ IndexSeen tss a earlier ∧ Approved tss a session later

/-- What is so of the events of a call with this authorization, whatever the TPM replies. -/
structure Disciplined (a : Authorization) (events : List Event) : Prop where
  write : ∀ before nvIndex session data offset reply after,
    events = before ++ (.nvWrite nvIndex session data offset, reply) :: after →
      nvIndex = recoveryNvIndex ∧ data = writeU64Be a.targetVersion ∧ offset = 0#16 ∧
        Authorized tss context a session before
  define : DefinesMissing a events
  initializes : ∀ e ∈ events, Of .define e → a.kind = .initialization
  flushed : Flushed events

/-- The three parts of a call: the index is prepared, the write takes place in a session, and the
version is read back. -/
structure Call (a : Authorization) (prepared session back : List Event) : Prop where
  prepare : Prepared a prepared
  inSession : InSession tss a session
  reads : Only [.read] back
  -- there is no session unless the index was seen as it should be
  seen : session ≠ [] → verifyPublicCalculations tss context a = .ok () ∧ IndexSeen tss a prepared

end Whole

theorem Call.of_prepared (h : Prepared a prepared) : Call tss context a prepared [] [] where
  prepare := h
  inSession := ⟨by nofun, by simp [WritesApproved], by simp [Flushed]⟩
  reads := by nofun
  seen h := absurd rfl h

theorem Call.after_reads (hfront : Only [.read] front) (h : Call tss context a prepared session back) :
    Call tss context a (front ++ prepared) session back where
  prepare := h.prepare.after_reads hfront
  inSession := h.inSession
  reads := h.reads
  seen hsession := by
    obtain ⟨hcalculations, reply, hmem, hgood⟩ := h.seen hsession
    exact ⟨hcalculations, reply, List.mem_append_right _ hmem, hgood⟩

theorem Call.disciplined (hvalid : ValidAuthorization a) (h : Call tss context a prepared session back) :
    Disciplined tss context a (prepared ++ (session ++ back)) where
  write := by
    intro before nvIndex handle data offset reply after hevents
    obtain ⟨inner, rfl, hinner⟩ := split_front (Of .write) (h.prepare.only.ne (by simp)) hevents rfl
    obtain ⟨rest, rfl, -⟩ := split_back (Of .write) (h.reads.ne (by simp)) hinner rfl
    obtain ⟨hcalculations, hseen⟩ := h.seen (by simp)
    obtain ⟨hindex, hdata, hoffset, happroved⟩ :=
      h.inSession.writes inner nvIndex handle data offset reply rest rfl
    exact ⟨hindex, hdata.trans hvalid.operand_eq, hoffset.trans hvalid.offset, hcalculations, prepared,
      inner, rfl, hseen, happroved⟩
  define := by
    intro before nvPublic reply after hevents
    have hquiet : Only [.approve, .write, .flush, .read] (session ++ back) :=
      (h.inSession.only.mono (by simp)).append (h.reads.mono (by simp))
    obtain ⟨rest, hprepared, -⟩ := split_back (Of .define) (hquiet.ne (by simp)) hevents rfl
    exact h.prepare.define before nvPublic reply rest hprepared
  initializes e he hdefine := by
    rcases List.mem_append.mp he with he | he
    · exact h.prepare.initializes e he hdefine
    rcases List.mem_append.mp he with he | he
    · exact absurd hdefine (h.inSession.only.ne (by simp) e he)
    · exact absurd hdefine (h.reads.ne (by simp) e he)
  flushed := by
    intro before e after handle hevents h'
    have happrove := obtained_of_approve h'
    obtain ⟨inner, -, hinner⟩ := split_front (Of .approve) (h.prepare.only.ne (by simp)) hevents happrove
    obtain ⟨rest, hsession, rfl⟩ := split_back (Of .approve) (h.reads.ne (by simp)) hinner happrove
    obtain ⟨reply, hreply⟩ := h.inSession.flushed inner e rest handle hsession h'
    exact ⟨reply, List.mem_append_left _ hreply⟩

/-- The target was written, and then read back by the last command. -/
def Completed (a : Authorization) (events : List Event) : Prop :=
  ∃ front reply, events = front ++ [(.nvRead recoveryNvIndex 8 0, reply)] ∧ reply.rc = rcSuccess ∧
    reply.data = writeU64Be a.targetVersion ∧ Written a front

theorem Completed.of_parts (hwritten : Written a session) (hread : EndsReading a.targetVersion back) :
    Completed a (prepared ++ (session ++ back)) := by
  obtain ⟨handle, write, hmem, hwrite⟩ := hwritten
  obtain ⟨reads, reply, rfl, hrc, hdata⟩ := hread
  refine ⟨prepared ++ (session ++ reads), reply, by simp only [List.append_assoc], hrc, hdata, handle,
    write, ?_, hwrite⟩
  exact List.mem_append_right _ (List.mem_append_left _ hmem)

theorem executePolicy_log (h : executePolicy tss tpm context a m = (status, m')) :
    ∃ prepared session back, m'.log = m.log ++ (prepared ++ (session ++ back)) ∧
      Call tss context a prepared session back ∧
      (status = .ok → Written a session ∧ EndsReading a.targetVersion back) := by
  rw [executePolicy] at h
  split at h
  · rename_i hcalculations
    cases h
    refine ⟨[], [], [], (List.append_nil _).symm, .of_prepared (.of_reads (by nofun)), fun hok => ?_⟩
    exact absurd hok (verifyPublicCalculations_error tss _ hcalculations)
  rename_i hcalculations
  split at h
  · rename_i m₁ hprepare
    obtain ⟨prepared, hlog, hprepared, hseen⟩ := prepareIndex_log hprepare
    have hcall : ∀ {session back}, InSession tss a session → Only [.read] back →
        Call tss context a prepared session back :=
      fun hsession hback => ⟨hprepared, hsession, hback, fun _ => ⟨hcalculations, hseen rfl⟩⟩
    split at h
    · rename_i m₂ hpolicy
      obtain ⟨session, hlog₂, hsession, hwritten⟩ := policySession_log hpolicy
      rw [readBack] at h
      split at h <;> cases h <;> rename_i hread <;>
        obtain ⟨back, hlog₃, hback, -, hvalue⟩ := readCurrent_log hread
      · refine ⟨prepared, session, back, ?_, hcall hsession hback, fun hok => ⟨hwritten rfl, ?_⟩⟩
        · simp only [hlog₃, hlog₂, hlog, List.append_assoc]
        · split_ifs at hok with htarget
          exact hvalue _ (congrArg _ htarget)
      · refine ⟨prepared, session, back, ?_, hcall hsession hback, by nofun⟩
        simp only [hlog₃, hlog₂, hlog, List.append_assoc]
    · rename_i hpolicy
      cases h
      obtain ⟨session, hlog₂, hsession, -⟩ := policySession_log hpolicy
      refine ⟨prepared, session, [], ?_, hcall hsession (by nofun), fun hok => absurd hok ‹_›⟩
      rw [hlog₂, hlog, List.append_assoc, List.append_nil]
  · rename_i hprepare
    cases h
    obtain ⟨prepared, hlog, hprepared, -⟩ := prepareIndex_log hprepare
    exact ⟨prepared, [], [], by rw [hlog, List.append_nil, List.append_nil], .of_prepared hprepared,
      fun hok => absurd hok ‹_›⟩

variable {read : Octets → Option Cbor.Item} {authorization : Octets}

theorem advanceTpm_log {currentVersion targetVersion : BitVec 64}
    (h : advanceTpm tss tpm context read currentVersion targetVersion authorization m = (status, m')) :
    ∃ events, m'.log = m.log ++ events ∧
      ((∀ e ∈ events, Of .read e) ∨ ∃ a, decodeChecked tss read authorization context.scratch = .ok a ∧
        a.kind = .update ∧ a.targetVersion = targetVersion ∧ Disciplined tss context a events) ∧
      (∀ e ∈ events, ¬ Of .define e) ∧
      (status = .ok → currentVersion < targetVersion ∧
        ∃ a earlier before later, decodeChecked tss read authorization context.scratch = .ok a ∧
          events = earlier ++ (.nvRead recoveryNvIndex 8 0, before) :: later ∧
          before.rc = rcSuccess ∧ before.data = writeU64Be currentVersion ∧
          a.targetVersion = targetVersion ∧ Completed a later) := by
  rw [advanceTpm] at h
  split at h
  · rename_i hdecoded
    cases h
    exact ⟨[], (List.append_nil _).symm, .inl (by nofun), by nofun,
      fun hok => absurd hok (decodeChecked_error _ hdecoded)⟩
  rename_i a hdecoded
  have hvalid := authorizationValid_iff.mp (decode_canonical hdecoded).1
  split_ifs at h with hwrong
  · cases h
    exact ⟨[], (List.append_nil _).symm, .inl (by nofun), by nofun, by nofun⟩
  obtain ⟨hkind, htarget⟩ : a.kind = .update ∧ a.targetVersion = targetVersion := by
    rwa [not_or, not_not, not_not] at hwrong
  split at h <;> rename_i hread <;> obtain ⟨front, hfront, hreads, hne, hvalue⟩ := readCurrent_log hread
  · cases h
    exact ⟨front, hfront, .inl hreads.single, hreads.ne (by simp),
      fun hok => absurd (congrArg _ hok) hne⟩
  split_ifs at h with hreplay
  · cases h
    exact ⟨front, hfront, .inl hreads.single, hreads.ne (by simp), by nofun⟩
  obtain ⟨rfl, hbelow⟩ := not_or.mp hreplay |>.imp not_not.mp BitVec.not_le.mp
  obtain ⟨prepared, session, back, hlog, hcall, hok⟩ := executePolicy_log h
  have hall := (hcall.after_reads hreads).disciplined hvalid
  rw [List.append_assoc] at hall
  refine ⟨_, by rw [hlog, hfront, List.append_assoc], .inr ⟨a, hdecoded, hkind, htarget, hall⟩,
    fun e he hdefine => ?_, fun hstatus => ⟨hbelow, ?_⟩⟩
  · have := hkind.symm.trans (hall.initializes e he hdefine)
    cases this
  · obtain ⟨reads, before, rfl, hrc, hdata⟩ := hvalue _ rfl
    exact ⟨a, reads, before, prepared ++ (session ++ back), hdecoded, List.append_assoc _ _ _, hrc, hdata,
      htarget, .of_parts (hok hstatus).1 (hok hstatus).2⟩

theorem tpmInitialize_log {result : Option (BitVec 64)}
    (h : tpmInitialize tss tpm context read authorization m = (result, m')) :
    ∃ events, m'.log = m.log ++ events ∧
      (events = [] ∨ ∃ a, decodeChecked tss read authorization context.scratch = .ok a ∧
        a.kind = .initialization ∧ Disciplined tss context a events) ∧
      ∀ version, result = some version →
        ∃ a, decodeChecked tss read authorization context.scratch = .ok a ∧
          version = a.targetVersion ∧ Completed a events := by
  rw [tpmInitialize] at h
  split at h
  · cases h
    exact ⟨[], (List.append_nil _).symm, .inl rfl, by nofun⟩
  rename_i a hdecoded
  have hvalid := authorizationValid_iff.mp (decode_canonical hdecoded).1
  split_ifs at h with hkind
  · cases h
    exact ⟨[], (List.append_nil _).symm, .inl rfl, by nofun⟩
  rw [not_not] at hkind
  split at h <;> rename_i hpolicy <;>
    obtain ⟨prepared, session, back, hlog, hcall, hok⟩ := executePolicy_log hpolicy
  · obtain ⟨hwritten, -⟩ := hok rfl
    split at h <;> cases h <;> rename_i hread <;>
      obtain ⟨back', hlog', hback, -, hvalue⟩ := readCurrent_log hread
    all_goals
      have hcall' : Call tss context a prepared session (back ++ back') :=
        { hcall with reads := hcall.reads.append hback }
      refine ⟨prepared ++ (session ++ (back ++ back')), ?_,
        .inr ⟨a, hdecoded, hkind, hcall'.disciplined hvalid⟩, ?_⟩
      · simp only [hlog', hlog, List.append_assoc]
    · intro version h
      split_ifs at h with htarget
      cases h
      obtain ⟨reads, reply, rfl, hread⟩ := hvalue _ rfl
      refine ⟨a, hdecoded, htarget, .of_parts hwritten ⟨back ++ reads, reply, ?_, htarget ▸ hread⟩⟩
      rw [List.append_assoc]
    · nofun
  · cases h
    exact ⟨_, hlog, .inr ⟨a, hdecoded, hkind, hcall.disciplined hvalid⟩, by nofun⟩

end Log

/-- **An advance or an initialization writes only what was authorized.**  Whatever the TPM replies,
the events of a call are disciplined by the authorization it was given, and without a valid one
there are none but reads.  An advance defines nothing, and succeeds only after it read the current
version, below the target, wrote the target and read it back; so does an initialization, but for the
version before.  An initialization that finds the index as it would define it goes on without
defining it again. -/
theorem tpm_rollback {σ : Type} (tss : Tss) (tpm : Command → σ → Reply × σ) (context : TpmContext)
    (read : Octets → Option Cbor.Item) (authorization : Octets) (m : Attended Command Reply σ) :
    (∀ currentVersion targetVersion, ∃ events,
      (advanceTpm tss tpm context read currentVersion targetVersion authorization m).2.log =
        m.log ++ events ∧
      ((∀ e ∈ events, Of .read e) ∨ ∃ a, decodeChecked tss read authorization context.scratch = .ok a ∧
        a.kind = .update ∧ a.targetVersion = targetVersion ∧ Disciplined tss context a events) ∧
      (∀ e ∈ events, ¬ Of .define e) ∧
      ((advanceTpm tss tpm context read currentVersion targetVersion authorization m).1 = .ok →
        currentVersion < targetVersion ∧
        ∃ a earlier before later, decodeChecked tss read authorization context.scratch = .ok a ∧
          events = earlier ++ (.nvRead recoveryNvIndex 8 0, before) :: later ∧
          before.rc = rcSuccess ∧ before.data = writeU64Be currentVersion ∧
          a.targetVersion = targetVersion ∧ Completed a later)) ∧
    (∃ events, (tpmInitialize tss tpm context read authorization m).2.log = m.log ++ events ∧
      (events = [] ∨ ∃ a, decodeChecked tss read authorization context.scratch = .ok a ∧
        a.kind = .initialization ∧ Disciplined tss context a events) ∧
      ∀ version, (tpmInitialize tss tpm context read authorization m).1 = some version →
        ∃ a, decodeChecked tss read authorization context.scratch = .ok a ∧
          version = a.targetVersion ∧ Completed a events) ∧
    (∀ a reply m', tpmExecute tpm context (.nvReadPublic recoveryNvIndex) m = (reply, m') →
      reply.rc = rcSuccess → indexMatches tss a reply = true →
      defineIfAbsent tss tpm context a m = (.ok, m')) := by
  refine ⟨fun currentVersion targetVersion => advanceTpm_log rfl, tpmInitialize_log rfl,
    fun a reply m' hread hrc hmatch => ?_⟩
  unfold defineIfAbsent
  rw [hread]
  dsimp only
  rw [if_pos hrc, if_pos hmatch]

end Pbns.Policy
