/-
Enrollments next to each other (`gateway/internal/enrollment/service.go`): a receipt that was given
is given again, and an enrollment that is under way is not disturbed by others.

Both are true as long as no `Begin` in between uses the request id of the enrollment.  The sessions
are a map from request ids, which the hosts choose, and a `Begin` puts its session there whatever
is in the map or in the database under the same id (`enrollments_disturbed`).

* `Answered.step`, `Answered.run` — a receipt can be asked for again;
* `Waiting.step`, `Waiting.run` — a session and the records it needs stay;
* `enrollments_undisturbed` — both together.
-/
import Pbns.EarnedHosts

namespace Pbns.Store

open Octets Model

namespace LedgerCall

theorem SameRecords.refl (lib : Libraries) (call : LedgerCall) (db : Ledger) :
    SameRecords lib call db db where
  hosts := fun _ _ => rfl
  receipts := fun _ _ => rfl
  history := fun _ _ _ => rfl
  pending := fun _ _ => rfl
  tokens := fun _ _ => rfl
  completed := fun _ _ => rfl
  parent := fun _ _ => rfl

theorem SameRecords.trans {lib : Libraries} {call : LedgerCall} {a b c : Ledger}
    (h : SameRecords lib call a b) (h' : SameRecords lib call b c) : SameRecords lib call a c where
  hosts := fun x hx => (h'.hosts x hx).trans (h.hosts x hx)
  receipts := fun x hx => (h'.receipts x hx).trans (h.receipts x hx)
  history := fun x hx id => (h'.history x hx id).trans (h.history x hx id)
  pending := fun id hid => (h'.pending id hid).trans (h.pending id hid)
  tokens := fun d hd => (h'.tokens d (h.token_eq ▸ hd)).trans (h.tokens d hd)
  completed := fun r hr => (h'.completed r hr).trans (h.completed r hr)
  parent := fun id hid => (h'.parent id hid).trans (h.parent id hid)

/-- Records that are there stay there with the same records. -/
theorem HasRecords.same {lib : Libraries} {call : LedgerCall} {db db' : Ledger}
    (h : HasRecords lib call db) (hsame : SameRecords lib call db db') :
    HasRecords lib call db' where
  pending := by
    intro id hid
    obtain ⟨p, hp, htoken⟩ := h.pending id hid
    exact ⟨p, (hsame.pending id hid).trans hp, hsame.token_eq.trans htoken⟩
  parent := by
    intro id hid
    obtain ⟨document, hdocument⟩ := h.parent id hid
    exact ⟨document, (hsame.parent id hid).trans hdocument⟩

end LedgerCall

/-- A completed enrollment is never replaced. -/
theorem Call.keeps_completed (lib : Libraries) (call : Call) {db : Database} {r : Identifier16}
    {completed : CompletedEnrollmentRecord} (h : db.completedEnrollments r = some completed) :
    (call.run lib db).2.completedEnrollments r = some completed := by
  cases hrun : call.run lib db
  obtain ⟨-, heffect⟩ | ⟨c, -, ⟨-, -, rfl⟩ | ⟨-, pending, record, hdone⟩⟩ := Call.run_cases hrun
  · rw [heffect.effect.same.2.2.2]
    exact h
  · exact h
  · rw [hdone.left]
    show completedWith c.completed db.completedEnrollments r = some completed
    cases hcompleted : c.completed with
    | none => exact h
    | some stored => exact update_new (hdone.found.newRequest stored hcompleted) h

end Pbns.Store

namespace Pbns.Enrollment

open Octets Model

section Apart

variable {ρ : Type} {lib : Libraries ρ} {service : Service ρ}

/-- The step is not a `Begin` whose init names the request. -/
def Step.Elsewhere (lib : Libraries ρ) (service : Service ρ) (requestID : Identifier16) : Step → Prop
  | .begin call => ∀ prepared, prepareBegin lib service call = .ok prepared →
      prepared.session.requestID ≠ requestID
  | _ => True

/-! ### Receipts that were given -/

/-- The receipt for an envelope can be had: it is stored, and there is no session in its way. -/
structure Answered (lib : Libraries ρ) (service : Service ρ) (envelope : Octets)
    (submission : Submission) (receipt : Octets) (s : State) : Prop where
  read : readSubmission lib service envelope = .ok submission
  idle : s.sessions submission.envelope.requestID = none
  stored : s.db.completedEnrollments submission.envelope.requestID
    = some ⟨submission.envelope.requestID, lib.sha256 envelope, receipt⟩
  digest : isZero (lib.sha256 envelope) = false
  size : receipt.length ≠ 0 ∧ receipt.length ≤ Store.maxReceiptBytes

variable {submission : Submission} {envelope receipt : Octets} {s : State}

theorem readSubmission_requestID {encoded : Octets}
    (h : readSubmission lib service encoded = .ok submission) :
    isZero submission.envelope.requestID = false :=
  (openEnvelope_ok (readSubmission_ok h).1).2.2.1

/-- A `Complete` with the envelope returns the receipt. -/
theorem Answered.complete (h : Answered lib service envelope submission receipt s)
    {call : CompleteCall} (hcall : call.envelope = envelope) :
    Enrollment.complete lib service call s = (.ok receipt, s) := by
  subst hcall
  have hget : getCompletedEnrollment submission.envelope.requestID (lib.sha256 call.envelope) s.db
      = .ok receipt := by
    rw [getCompletedEnrollment, if_neg, h.stored]
    · simp [h.size.1, h.size.2]
    · simp [readSubmission_requestID h.read, h.digest]
  simp only [Enrollment.complete, h.read, h.idle, retry, hget]

theorem getCompletedEnrollment_ok {requestID : Identifier16} {digest : Digest32}
    {db : Store.Database} (h : getCompletedEnrollment requestID digest db = .ok receipt) :
    isZero digest = false ∧ receipt.length ≠ 0 ∧ receipt.length ≤ Store.maxReceiptBytes ∧
      db.completedEnrollments requestID = some ⟨requestID, digest, receipt⟩ := by
  rw [getCompletedEnrollment] at h
  split_ifs at h with hzero
  cases hrecord : db.completedEnrollments requestID with
  | none => simp [hrecord] at h
  | some record =>
    simp only [hrecord] at h
    split_ifs at h with hcorrupt hdigest
    obtain rfl := Except.ok.inj h
    simp only [not_or, not_not, Bool.not_eq_true, Nat.not_lt] at hzero hcorrupt hdigest
    refine ⟨hzero.2, hcorrupt.2.1, hcorrupt.2.2, ?_⟩
    rw [← hcorrupt.1, ← hdigest]

/-- A receipt that was returned can be had again. -/
theorem complete_answers {call : CompleteCall} {s' : State}
    (h : Enrollment.complete lib service call s = (.ok receipt, s')) :
    ∃ submission, Answered lib service call.envelope submission receipt s' := by
  rcases complete_cases call s with ⟨error, hcomplete⟩ | ⟨submission, found, hread,
    ⟨hidle, hget, hcomplete⟩ | ⟨session, hsession, hcheck, hdone, hcomplete⟩⟩
  · cases congrArg Prod.fst (h.symm.trans hcomplete)
  · obtain ⟨hreceipt, rfl⟩ := Prod.mk.inj (h.symm.trans hcomplete)
    obtain rfl := Except.ok.inj hreceipt
    obtain ⟨hdigest, hsome, hsize, hstored⟩ := getCompletedEnrollment_ok hget
    exact ⟨submission, hread, hidle, hstored, hdigest, hsome, hsize⟩
  · obtain ⟨hreceipt, rfl⟩ := Prod.mk.inj (h.symm.trans hcomplete)
    obtain rfl := Except.ok.inj hreceipt
    obtain ⟨⟨hsome, hsize, -, hdigest⟩, -, pending, record, -, hdb⟩ := hostCall_done hdone
    -- the session it used is the one of the envelope's request
    have hrequest : submission.envelope.requestID = session.requestID :=
      (proofMatchesSession_ok (checkProof_ok hcheck).matches_session).2.1
    refine ⟨submission, hread, ?_, ?_, hdigest, hsome, hsize⟩
    · rw [hrequest]
      exact Function.update_self _ _ _
    · rw [hrequest, hdb]
      exact Function.update_self _ _ _

/-- **One step** leaves a receipt that was given. -/
theorem Answered.step (h : Answered lib service envelope submission receipt s) {step : Step}
    (hstep : step.Elsewhere lib service submission.envelope.requestID) :
    Answered lib service envelope submission receipt (step.run lib service s) := by
  have hkeep (call : Store.Call) := call.keeps_completed lib.toLibraries h.stored
  cases step with
  | begin call =>
    rcases @begin_cases ρ lib service call s with ⟨error, hbegin⟩ | ⟨prepared, hprepare,
      ⟨error, hbegin⟩ | ⟨pending, signed, -, -, hbegin⟩⟩
    · rw [Step.run, hbegin]
      exact h
    · rw [Step.run, hbegin]
      exact { h with stored := hkeep _ }
    · rw [Step.run, hbegin]
      refine ⟨h.read, ?_, hkeep _, h.digest, h.size⟩
      exact (Function.update_of_ne (hstep prepared hprepare).symm _ _).trans h.idle
  | complete call =>
    rcases @complete_cases ρ lib service call s with ⟨error, hcomplete⟩ | ⟨found, given, -,
      ⟨-, -, hcomplete⟩ | ⟨session, -, -, -, hcomplete⟩⟩
    · rw [Step.run, hcomplete]
      exact h
    · rw [Step.run, hcomplete]
      exact h
    · rw [Step.run, hcomplete]
      refine ⟨h.read, ?_, hkeep _, h.digest, h.size⟩
      by_cases hid : submission.envelope.requestID = session.requestID
      · rw [hid]
        exact Function.update_self _ _ _
      · exact (Function.update_of_ne hid _ _).trans h.idle
  | restart => exact { h with idle := rfl }
  | store call => exact { h with stored := hkeep call }

/-- **Every run** does. -/
theorem Answered.run (h : Answered lib service envelope submission receipt s) {steps : List Step}
    (hsteps : ∀ step ∈ steps, step.Elsewhere lib service submission.envelope.requestID) :
    Answered lib service envelope submission receipt (Enrollment.run lib service steps s) := by
  induction steps generalizing s with
  | nil => exact h
  | cons step steps ih =>
    rw [run_cons]
    exact ih (h.step (hsteps step List.mem_cons_self)) fun other hother =>
      hsteps other (List.mem_cons_of_mem step hother)

/-! ### Enrollments under way -/

/-- The step is a `Begin` or a `Complete` for another enrollment than the one prepared: of another
host key, with another baseline document and another token.  The token of a `Complete` is the one
its session is bound to, if there is a session that its proof is for. -/
def Step.ForOther (lib : Libraries ρ) (service : Service ρ) (own : Prepared) : Step → State → Prop
  | .begin call, _ => ∀ prepared, prepareBegin lib service call = .ok prepared →
      prepared.session.fingerprint ≠ own.session.fingerprint ∧
      prepared.session.baselineDigest ≠ own.session.baselineDigest ∧
      lib.sha256 prepared.token.toList ≠ lib.sha256 own.token.toList
  | .complete call, s => ∀ submission, readSubmission lib service call.envelope = .ok submission →
      submission.proof.context.hostFingerprint ≠ own.session.fingerprint ∧
      submission.proof.baselineDigest ≠ own.session.baselineDigest ∧
      ∀ session pending, s.sessions submission.envelope.requestID = some session →
        proofMatchesSession submission.proof submission.envelope session service.recipientKID = true →
        s.db.pending session.pendingID = some pending →
        pending.tokenDigest ≠ lib.sha256 own.token.toList
  | _, _ => False

/-- Every step of a run is one for another enrollment, in the state it is taken in. -/
def OthersOnly (lib : Libraries ρ) (service : Service ρ) (own : Prepared) : List Step → State → Prop
  | [], _ => True
  | step :: steps, s => step.ForOther lib service own s ∧
      OthersOnly lib service own steps (step.run lib service s)

/-- The database without a history of baselines, which `Begin` and `Complete` do not touch. -/
def ledgerOf (db : Store.Database) : Store.Ledger := ⟨db, Bucket.empty⟩

/-- An enrollment waits for the call that is to store its host: its session is there, the records
the call needs are those of `first`, and its document is new. -/
structure Waiting (lib : Libraries ρ) (own : PendingSession) (call : Store.Call)
    (first : Store.Database) (s : State) : Prop where
  session : s.sessions own.requestID = some own
  same : Store.LedgerCall.SameRecords lib.toLibraries (.enrollment call) (ledgerOf first)
    (ledgerOf s.db)
  document : s.db.baselines own.baselineDigest = none

section Waiting

variable {own : PendingSession} {first : Store.Database} {s : State} {call : CompleteCall}
  {submission : Submission} {receipt : Octets}

variable (hhas : Store.LedgerCall.HasRecords lib.toLibraries (.enrollment (hostCall lib call submission own receipt)) (ledgerOf first))

include hhas

variable (h : Waiting lib own (hostCall lib call submission own receipt) first s)

include h

/-- A call of the store that is apart from the one an enrollment waits for leaves it waiting. -/
theorem Waiting.stored {other : Store.Call}
    (hapart : Store.LedgerCall.Apart lib.toLibraries (.enrollment (hostCall lib call submission own receipt)) (.enrollment other) (ledgerOf s.db))
    (hdocument : other.document ≠ some own.baselineDigest)
    {sessions : Identifier16 → Option PendingSession} (hsession : sessions own.requestID = some own)
    :
    Waiting lib own (hostCall lib call submission own receipt) first
      ⟨sessions, (other.run lib.toLibraries s.db).2⟩ := by
  have hframe := (Store.LedgerCall.run_frame (.enrollment other) :
    Store.LedgerCall.Frame lib.toLibraries (.enrollment other) (ledgerOf s.db)
      (Store.LedgerCall.run lib.toLibraries lib.baseline (.enrollment other) (ledgerOf s.db)).2 _)
  refine ⟨hsession, h.same.trans (hapart.sameRecords (hhas.same h.same) hframe), ?_⟩
  exact (hframe.stored own.baselineDigest h.document).mpr fun hstored => hdocument hstored.1

omit hhas in
/-- The token of the call an enrollment waits for. -/
theorem Waiting.token {found : Store.Pending} (hfound : first.pending own.pendingID = some found) :
    Store.LedgerCall.token lib.toLibraries (ledgerOf s.db)
      (.enrollment (hostCall lib call submission own receipt)) = some found.tokenDigest := by
  rw [h.same.token_eq]
  show (first.pending own.pendingID).map (·.tokenDigest) = some found.tokenDigest
  rw [hfound]
  rfl

variable {prepared : Prepared} {found : Store.Pending}

/-- **One step** of another enrollment leaves it waiting, if it is not a `Begin` with its request. -/
theorem Waiting.step (hfingerprint : own.fingerprint = prepared.session.fingerprint)
    (hbaseline : own.baselineDigest = prepared.session.baselineDigest)
    (hfound : first.pending own.pendingID = some found)
    (htoken : found.tokenDigest = lib.sha256 prepared.token.toList) {step : Step}
    (hother : step.ForOther lib service prepared s)
    (helse : step.Elsewhere lib service own.requestID) :
    Waiting lib own (hostCall lib call submission own receipt) first (step.run lib service s) := by
  cases step with
  | begin other =>
    rcases @begin_cases ρ lib service other s with ⟨error, hbegin⟩ | ⟨ready, hready, hcases⟩
    · rw [Step.run, hbegin]
      exact h
    obtain ⟨-, -, hothertoken⟩ := hother ready hready
    have hapart : Store.LedgerCall.Apart lib.toLibraries
        (.enrollment (hostCall lib call submission own receipt))
        (.enrollment (ready.storeCall other)) (ledgerOf s.db) := by
      refine ⟨fun _ _ hx => absurd hx (by simp [Store.LedgerCall.fingerprint, Prepared.storeCall,
        Store.Call.completion]), fun d hd hx => ?_, fun _ _ hx => absurd hx (by
          simp [Store.LedgerCall.requestID, Prepared.storeCall, Store.Call.requestID])⟩
      rw [h.token hfound, htoken] at hd
      have hdigest : some (lib.sha256 ready.token.toList) = some d := by
        rw [← hx]
        simp [Store.LedgerCall.token, Prepared.storeCall, Store.Call.token, Store.digestSecret,
          Store.tokenByteLength]
      exact hothertoken (Option.some.inj (hdigest.trans hd.symm))
    have hnone : (ready.storeCall other).document ≠ some own.baselineDigest := by
      simp [Prepared.storeCall, Store.Call.document]
    rcases hcases with ⟨error, hbegin⟩ | ⟨pending, signed, -, -, hbegin⟩
    · rw [Step.run, hbegin]
      exact h.stored hhas hapart hnone h.session
    · rw [Step.run, hbegin]
      refine h.stored hhas hapart hnone ?_
      exact (Function.update_of_ne (helse ready hready).symm _ _).trans h.session
  | complete other =>
    rcases @complete_cases ρ lib service other s with ⟨error, hcomplete⟩ | ⟨found', given, hread,
      ⟨-, -, hcomplete⟩ | ⟨session, hsession, hcheck, -, hcomplete⟩⟩
    · rw [Step.run, hcomplete]
      exact h
    · rw [Step.run, hcomplete]
      exact h
    obtain ⟨hotherfingerprint, hotherbaseline, hothertoken⟩ := hother found' hread
    have hmatches := (checkProof_ok hcheck).matches_session
    obtain ⟨-, hrequest, hproofFingerprint, -, -, -, -, hproofBaseline, -, -⟩ :=
      proofMatchesSession_ok hmatches
    -- its session is not the one that waits, since its proof is for another key
    have hne : session.requestID ≠ own.requestID := by
      intro heq
      rw [hrequest, heq, h.session] at hsession
      obtain rfl := Option.some.inj hsession
      exact hotherfingerprint (hproofFingerprint.trans hfingerprint)
    have hapart : Store.LedgerCall.Apart lib.toLibraries
        (.enrollment (hostCall lib call submission own receipt))
        (.enrollment (hostCall lib other found' session given)) (ledgerOf s.db) := by
      refine ⟨fun x hx hx' => ?_, fun d hd hx => ?_, fun r hr hr' => ?_⟩
      · have hsame : session.fingerprint = own.fingerprint :=
          Option.some.inj (hx'.trans hx.symm)
        exact hotherfingerprint (hproofFingerprint.trans (hsame.trans hfingerprint))
      · rw [h.token hfound, htoken] at hd
        obtain ⟨pending, hpending, hdigest⟩ := Option.map_eq_some_iff.mp hx
        exact hothertoken session pending hsession hmatches hpending
          (hdigest.trans (Option.some.inj hd).symm)
      · exact hne (Option.some.inj (hr'.trans hr.symm))
    rw [Step.run, hcomplete]
    refine h.stored hhas hapart ?_ ((Function.update_of_ne hne.symm _ _).trans h.session)
    intro hdocument
    have hsame : session.baselineDigest = own.baselineDigest := Option.some.inj hdocument
    exact hotherbaseline (hproofBaseline.trans (hsame.trans hbaseline))
  | restart => exact hother.elim
  | store other => exact hother.elim

/-- **Every run** of other enrollments does. -/
theorem Waiting.run (hfingerprint : own.fingerprint = prepared.session.fingerprint)
    (hbaseline : own.baselineDigest = prepared.session.baselineDigest)
    (hfound : first.pending own.pendingID = some found)
    (htoken : found.tokenDigest = lib.sha256 prepared.token.toList) {steps : List Step}
    (hothers : OthersOnly lib service prepared steps s)
    (helse : ∀ step ∈ steps, step.Elsewhere lib service own.requestID) :
    Waiting lib own (hostCall lib call submission own receipt) first
      (Enrollment.run lib service steps s) := by
  induction steps generalizing s with
  | nil => exact h
  | cons step steps ih =>
    rw [run_cons]
    exact ih (h.step hhas hfingerprint hbaseline hfound htoken hothers.1
      (helse step List.mem_cons_self)) hothers.2 fun other hother =>
        helse other (List.mem_cons_of_mem step hother)

omit hhas

omit h

/-- A `Complete` that finds its session and whose host is stored returns its receipt. -/
theorem complete_of_stored (hread : readSubmission lib service call.envelope = .ok submission)
    (hsession : s.sessions submission.envelope.requestID = some own)
    (hcheck : checkProof lib service call submission own = .ok receipt)
    (hstored : ((hostCall lib call submission own receipt).run lib.toLibraries s.db).1.succeeded
      = true) : (complete lib service call s).1 = .ok receipt := by
  cases hstore : storeHost lib call submission own receipt s.db with
  | mk result db =>
    have hrun : ((hostCall lib call submission own receipt).run lib.toLibraries s.db).1
        = .done (storeHost lib call submission own receipt s.db).1 := rfl
    rw [hrun, hstore] at hstored
    cases result with
    | error error => exact absurd hstored (by simp [Store.Outcome.succeeded])
    | ok u => simp only [complete, hread, hsession, hcheck, hstore]

end Waiting

/-- A `Complete` that would succeed behind its `Begin` succeeds behind other enrollments too. -/
theorem complete_undisturbed {before steps : List Step} {own : BeginCall} {prepared : Prepared}
    {call : CompleteCall} {submission : Submission} {signed receipt : Octets}
    (hprepare : prepareBegin lib service own = .ok prepared)
    (hbegin : (begin lib service own (run lib service before .start)).1 = .ok signed)
    (hread : readSubmission lib service call.envelope = .ok submission)
    (hrequest : submission.envelope.requestID = prepared.session.requestID)
    (hcomplete : (complete lib service call (run lib service (before ++ [.begin own]) .start)).1
      = .ok receipt)
    (hothers : OthersOnly lib service prepared steps
      (run lib service (before ++ [.begin own]) .start))
    (helse : ∀ step ∈ steps, step.Elsewhere lib service prepared.session.requestID) :
    (complete lib service call
      (run lib service steps (run lib service (before ++ [.begin own]) .start))).1 = .ok receipt := by
  -- the session and the records that the `Begin` leaves
  obtain ⟨ready, pending, hopened, -, hsession, hbound⟩ := begin_opens hbegin
  obtain rfl := Except.ok.inj (hprepare.symm.trans hopened.ready)
  obtain ⟨created, hsound⟩ :=
    (run_grounded (before ++ [.begin own]) : Grounded lib service _ _).sound
  generalize run lib service (before ++ [.begin own]) .start = s at *
  -- what the `Complete` does right behind it
  rcases @complete_cases ρ lib service call s with ⟨error, heq'⟩ |
    ⟨found, given, hfound, ⟨hidle, -, -⟩ | ⟨session, hfoundSession, hcheck, hdone, heq'⟩⟩
  · cases hcomplete.symm.trans (congrArg Prod.fst heq')
  · obtain rfl := Except.ok.inj (hread.symm.trans hfound)
    rw [hrequest] at hidle
    cases hsession.symm.trans hidle
  obtain rfl := Except.ok.inj (hread.symm.trans hfound)
  obtain rfl := Except.ok.inj (hcomplete.symm.trans (congrArg Prod.fst heq'))
  rw [hrequest] at hfoundSession
  obtain rfl := Option.some.inj (hsession.symm.trans hfoundSession)
  obtain ⟨-, -, record, token, hcompletable, -⟩ := hostCall_done hdone
  obtain ⟨hpending, -⟩ := Store.completable_ok hcompletable.token
  have htoken : record.tokenDigest = lib.sha256 prepared.token.toList := by
    rw [Bound.consumed hsound hbound hpending, hopened.token]
  -- it waits, all along the steps of the others
  have hsucceeded : (Store.LedgerCall.run lib.toLibraries lib.baseline (.enrollment
      (hostCall lib call submission { prepared.session with pendingID := pending.id } receipt))
      (ledgerOf s.db)).1.succeeded = true := congrArg Store.Outcome.succeeded (congrArg Prod.fst hdone)
  obtain ⟨hnew, hhas, -⟩ := Store.LedgerCall.run_has rfl hsucceeded
  have hwaiting : Waiting lib { prepared.session with pendingID := pending.id } (hostCall lib call
      submission { prepared.session with pendingID := pending.id } receipt) s.db s :=
    ⟨hsession, .refl _ _ _, hnew⟩
  have hlast := hwaiting.run hhas rfl rfl hpending htoken hothers helse
  -- and then finds all it found before
  refine complete_of_stored hread (by rw [hrequest]; exact hlast.session) hcheck ?_
  exact (Store.LedgerCall.run_congr rfl hlast.same hlast.document hsucceeded).1

/-- **Enrollments do not disturb each other**, as long as no `Begin` uses the request id of
another one.

* A receipt that was returned for an envelope is returned again, also behind restarts.
* A `Complete` that would succeed right behind its own `Begin` succeeds, with the same receipt,
  behind any calls for other host keys, documents and tokens. -/
theorem enrollments_undisturbed (lib : Libraries ρ) (service : Service ρ) (before : List Step) :
    (∀ (call again : CompleteCall) (submission : Submission) (receipt : Octets) (steps : List Step),
      (complete lib service call (run lib service before .start)).1 = .ok receipt →
      readSubmission lib service call.envelope = .ok submission →
      (∀ step ∈ steps, step.Elsewhere lib service submission.envelope.requestID) →
      again.envelope = call.envelope →
      (complete lib service again (run lib service steps
        (run lib service (before ++ [.complete call]) .start))).1 = .ok receipt) ∧
    ∀ (own : BeginCall) (prepared : Prepared) (call : CompleteCall) (submission : Submission)
      (signed receipt : Octets) (steps : List Step),
      prepareBegin lib service own = .ok prepared →
      (begin lib service own (run lib service before .start)).1 = .ok signed →
      readSubmission lib service call.envelope = .ok submission →
      submission.envelope.requestID = prepared.session.requestID →
      (complete lib service call (run lib service (before ++ [.begin own]) .start)).1
        = .ok receipt →
      OthersOnly lib service prepared steps (run lib service (before ++ [.begin own]) .start) →
      (∀ step ∈ steps, step.Elsewhere lib service prepared.session.requestID) →
      (complete lib service call (run lib service steps
        (run lib service (before ++ [.begin own]) .start))).1 = .ok receipt := by
  constructor
  · intro call again submission receipt steps hcomplete hread helse hagain
    rw [run_snoc, Step.run]
    obtain ⟨found, hanswered⟩ := complete_answers (Prod.ext hcomplete rfl :
      complete lib service call (run lib service before .start) = (.ok receipt, _))
    obtain rfl := Except.ok.inj (hread.symm.trans hanswered.read)
    rw [(hanswered.run helse).complete hagain]
  · intro own prepared call submission signed receipt steps
    exact complete_undisturbed

end Apart

/-! ### Two hosts -/

/-- What tells enrollments apart. -/
def Prepared.marks (prepared : Prepared) : Digest32 × Digest32 × Digest32 × Identifier16 :=
  (prepared.session.fingerprint, prepared.session.baselineDigest, prepared.token,
    prepared.session.requestID)

/-- The marks of a sample host under a request. -/
def sampleMarks (host request : Octet) : Digest32 × Digest32 × Digest32 × Identifier16 :=
  (sampleHash (sampleKey host), sampleHash [host], List.Vector.replicate 32 host,
    List.Vector.replicate 16 request)

theorem sampleBegin_marks {host request : Octet} {prepared : Prepared}
    (hmarks : (prepareBegin sampleLibraries sampleService (sampleBegin host request)).toOption.map
      Prepared.marks = some (sampleMarks host request))
    (h : prepareBegin sampleLibraries sampleService (sampleBegin host request) = .ok prepared) :
    prepared.marks = sampleMarks host request := by
  rw [h] at hmarks
  exact Option.some.inj hmarks

/-- A `Begin` of the second host is one for another enrollment than that of the first. -/
theorem sampleBegin_forOther {own : Prepared} (hown : own.marks = sampleMarks 1#8 1#8)
    {request : Octet} (hmarks : (prepareBegin sampleLibraries sampleService
      (sampleBegin 2#8 request)).toOption.map Prepared.marks = some (sampleMarks 2#8 request))
    (s : State) : Step.ForOther sampleLibraries sampleService own
      (.begin (sampleBegin 2#8 request)) s := by
  intro prepared hprepare
  have hother := sampleBegin_marks hmarks hprepare
  simp only [Prepared.marks, sampleMarks, Prod.mk.injEq] at hown hother
  rw [hown.1, hown.2.1, hown.2.2.1, hother.1, hother.2.1, hother.2.2.1]
  decide +kernel

/-- Both hosts have a token. -/
def sampleTokens : List Step := [sampleCreate 1#8, sampleCreate 2#8]

theorem sampleMarks_two : (prepareBegin sampleLibraries sampleService
    (sampleBegin 2#8 2#8)).toOption.map Prepared.marks = some (sampleMarks 2#8 2#8) := by
  decide +kernel

theorem samplePrepared_one : ∃ own,
    prepareBegin sampleLibraries sampleService (sampleBegin 1#8 1#8) = .ok own ∧
      own.marks = sampleMarks 1#8 1#8 := by
  have hmarks : (prepareBegin sampleLibraries sampleService (sampleBegin 1#8 1#8)).toOption.map
      Prepared.marks = some (sampleMarks 1#8 1#8) := by decide +kernel
  cases hprepare : prepareBegin sampleLibraries sampleService (sampleBegin 1#8 1#8) with
  | error error =>
    rw [hprepare] at hmarks
    exact absurd hmarks (by simp [Except.toOption])
  | ok own => exact ⟨own, rfl, sampleBegin_marks hmarks hprepare⟩

/-- A `Begin` of the second host under its own request is elsewhere. -/
theorem sampleBegin_elsewhere : Step.Elsewhere sampleLibraries sampleService
    (List.Vector.replicate 16 1#8) (.begin (sampleBegin 2#8 2#8)) := by
  intro prepared hprepare
  have hrequest : prepared.session.requestID = List.Vector.replicate 16 2#8 :=
    congrArg (fun marks => marks.2.2.2) (sampleBegin_marks sampleMarks_two hprepare)
  rw [hrequest]
  decide

/-- The `Complete` of the second host, with the session of its own `Begin`. -/
theorem sampleComplete_forOther {own : Prepared} (hown : own.marks = sampleMarks 1#8 1#8) :
    Step.ForOther sampleLibraries sampleService own (.complete (sampleComplete 2#8 2#8))
      (run sampleLibraries sampleService (sampleTokens ++
        [.begin (sampleBegin 1#8 1#8), .begin (sampleBegin 2#8 2#8)]) .start) := by
  intro submission hsubmission
  obtain rfl := Except.ok.inj hsubmission
  simp only [Prepared.marks, sampleMarks, Prod.mk.injEq] at hown
  rw [hown.1, hown.2.1, hown.2.2.1]
  refine ⟨by decide +kernel, by decide +kernel, ?_⟩
  intro session pending hsession _ hpending
  have htoken : ((run sampleLibraries sampleService (sampleTokens ++
      [.begin (sampleBegin 1#8 1#8), .begin (sampleBegin 2#8 2#8)]) .start).db.pending
      (List.Vector.replicate 16 2#8)).map Store.Pending.tokenDigest
      = some (sampleHash (List.Vector.replicate 32 2#8).toList) := by decide +kernel
  have hid : ((run sampleLibraries sampleService (sampleTokens ++
      [.begin (sampleBegin 1#8 1#8), .begin (sampleBegin 2#8 2#8)]) .start).sessions
      (List.Vector.replicate 16 2#8)).map PendingSession.pendingID
      = some (List.Vector.replicate 16 2#8) := by decide +kernel
  have hsessionID : session.pendingID = List.Vector.replicate 16 2#8 :=
    Option.some.inj ((congrArg (Option.map PendingSession.pendingID) hsession).symm.trans hid)
  rw [hsessionID] at hpending
  have hdigest : pending.tokenDigest = sampleHash (List.Vector.replicate 32 2#8).toList :=
    Option.some.inj ((congrArg (Option.map Store.Pending.tokenDigest) hpending).symm.trans htoken)
  rw [hdigest]
  decide +kernel

/-- The second host enrolls under a request of its own: the first one is not disturbed, and gets
its receipt again behind a restart. -/
theorem enrollments_undisturbed_sample :
    (complete sampleLibraries sampleService (sampleComplete 1#8 1#8)
      (run sampleLibraries sampleService
        [.begin (sampleBegin 2#8 2#8), .complete (sampleComplete 2#8 2#8)]
        (run sampleLibraries sampleService (sampleTokens ++ [.begin (sampleBegin 1#8 1#8)])
          .start))).1 = .ok [10#8, 0#8] ∧
    (complete sampleLibraries sampleService (sampleComplete 1#8 1#8)
      (run sampleLibraries sampleService [.restart, .begin (sampleBegin 2#8 2#8)]
        (run sampleLibraries sampleService
          ((sampleTokens ++ [.begin (sampleBegin 1#8 1#8)]) ++ [.complete (sampleComplete 1#8 1#8)])
          .start))).1 = .ok [10#8, 0#8] := by
  have hread : (readSubmission sampleLibraries sampleService [1#8, 1#8, 1#8])
      = .ok ⟨⟨List.Vector.replicate 16 1#8, List.Vector.replicate 32 2#8, [7#8],
        [1#8, 1#8, 1#8]⟩, [1#8, 1#8, 1#8], sampleProof 1#8 1#8⟩ := rfl
  constructor
  · obtain ⟨own, hprepare, hmarks⟩ := samplePrepared_one
    have hrequest : own.session.requestID = List.Vector.replicate 16 1#8 :=
      congrArg (fun marks => marks.2.2.2) hmarks
    refine (enrollments_undisturbed sampleLibraries sampleService sampleTokens).2
      (sampleBegin 1#8 1#8) own _ _ [9#8] _ _ hprepare (by decide +kernel) hread
      hrequest.symm (by decide +kernel)
      ⟨sampleBegin_forOther hmarks sampleMarks_two _, sampleComplete_forOther hmarks, trivial⟩ ?_
    intro step hstep
    rw [hrequest]
    rcases List.mem_pair.mp hstep with rfl | rfl
    · exact sampleBegin_elsewhere
    · trivial
  · refine (enrollments_undisturbed sampleLibraries sampleService
      (sampleTokens ++ [.begin (sampleBegin 1#8 1#8)])).1 (sampleComplete 1#8 1#8) _ _ [10#8, 0#8] _
      (by decide +kernel) hread ?_ rfl
    intro step hstep
    rcases List.mem_pair.mp hstep with rfl | rfl
    · trivial
    · exact sampleBegin_elsewhere

/-- The second host begins under the request of the first one, with another key, document and
token.  The first one can no longer complete, though it could before, and one that has completed
no longer gets its receipt. -/
theorem enrollments_disturbed :
    (∃ own, prepareBegin sampleLibraries sampleService (sampleBegin 1#8 1#8) = .ok own ∧
      OthersOnly sampleLibraries sampleService own [.begin (sampleBegin 2#8 1#8)]
        (run sampleLibraries sampleService (sampleTokens ++ [.begin (sampleBegin 1#8 1#8)])
          .start)) ∧
    (complete sampleLibraries sampleService (sampleComplete 1#8 1#8)
      (run sampleLibraries sampleService (sampleTokens ++ [.begin (sampleBegin 1#8 1#8)])
        .start)).1 = .ok [10#8, 0#8] ∧
    (complete sampleLibraries sampleService (sampleComplete 1#8 1#8)
      (run sampleLibraries sampleService (sampleTokens ++ [.begin (sampleBegin 1#8 1#8),
        .begin (sampleBegin 2#8 1#8)]) .start)).1 = .error .transcript ∧
    (complete sampleLibraries sampleService (sampleComplete 1#8 1#8)
      (run sampleLibraries sampleService (sampleTokens ++ [.begin (sampleBegin 1#8 1#8),
        .complete (sampleComplete 1#8 1#8), .begin (sampleBegin 2#8 1#8)]) .start)).1
      = .error .transcript := by
  refine ⟨?_, by decide +kernel, by decide +kernel, by decide +kernel⟩
  obtain ⟨own, hprepare, hmarks⟩ := samplePrepared_one
  exact ⟨own, hprepare, sampleBegin_forOther hmarks (by decide +kernel) _, trivial⟩

end Pbns.Enrollment
