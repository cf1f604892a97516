/-
Programs that talk to a device by commands.

Every attempt at a command goes into the log with the reply it got.  A command is tried again, a
bounded number of times, as long as its reply asks for it.  A sequence of steps issues one command
after the other, keeps what it needs of the replies in variables, and stops at the first reply it
does not accept.

* `execute_log` — what one command logs;
* `runSteps_log` — a sequence that gets through has had every reply accepted, in order;
* `runSteps_recorded` — what the variables keep of a reply;
* `split_front`, `split_back` — where in a log an event of a kind stands.
-/
import Mathlib.Data.List.Basic

namespace Commands

structure Attended (κ ρ σ : Type) where
  world : σ
  log : List (κ × ρ)

/-- A step of a sequence: its command, the variables after the reply, and the error, if any. -/
structure Step (κ ρ ν ε : Type) where
  command : ν → κ
  after : ν → ρ → ν
  verdict : ν → ρ → Option ε

section Run

variable {κ ρ σ ν ε : Type} (device : κ → σ → ρ × σ) (again : ρ → Bool)

def issue (c : κ) (m : Attended κ ρ σ) : ρ × Attended κ ρ σ :=
  let answer := device c m.world
  (answer.1, ⟨answer.2, m.log ++ [(c, answer.1)]⟩)

/-- A command with so many retries. -/
def execute (c : κ) : ℕ → Attended κ ρ σ → ρ × Attended κ ρ σ
  | 0, m => issue device c m
  | retries + 1, m =>
    if again (issue device c m).1 then execute c retries (issue device c m).2 else issue device c m

/-- A sequence of steps, each with so many retries. -/
def runSteps (retries : ℕ) : List (Step κ ρ ν ε) → ν → Attended κ ρ σ → Option ε × ν × Attended κ ρ σ
  | [], v, m => (none, v, m)
  | step :: steps, v, m =>
    let answer := execute device again (step.command v) retries m
    match step.verdict v answer.1 with
    | some error => (some error, step.after v answer.1, answer.2)
    | none => runSteps retries steps (step.after v answer.1) answer.2

/-! ### What is logged -/

/-- The events of one command that ended with this reply: attempts that asked for another, and
the last one. -/
def Attempts (c : κ) (reply : ρ) (events : List (κ × ρ)) : Prop :=
  ∃ tries, events = tries ++ [(c, reply)] ∧ ∀ e ∈ tries, e.1 = c ∧ again e.2 = true

/-- The events of the steps that got through, one for each, with the variables before and after. -/
inductive Accepted : List (Step κ ρ ν ε) → ν → List (κ × ρ) → ν → Prop
  | nil (v : ν) : Accepted [] v [] v
  | cons {step : Step κ ρ ν ε} {steps : List (Step κ ρ ν ε)} {v v' : ν} {reply : ρ}
      {events : List (κ × ρ)} (hverdict : step.verdict v reply = none)
      (hrest : Accepted steps (step.after v reply) events v') :
      Accepted (step :: steps) v ((step.command v, reply) :: events) v'

/-- The event is of a command that one of these steps issues. -/
def IssuedBy (steps : List (Step κ ρ ν ε)) (e : κ × ρ) : Prop :=
  ∃ step ∈ steps, ∃ v, e.1 = step.command v

variable {device again} {c : κ} {reply : ρ} {events : List (κ × ρ)} {retries : ℕ}
variable {m m' : Attended κ ρ σ} {step : Step κ ρ ν ε} {steps xs ys : List (Step κ ρ ν ε)}
variable {v v' : ν} {error : Option ε}

theorem execute_log (h : execute device again c retries m = (reply, m')) :
    ∃ events, m'.log = m.log ++ events ∧ Attempts again c reply events := by
  induction retries generalizing m with
  | zero =>
    cases h
    exact ⟨_, rfl, [], rfl, by nofun⟩
  | succ retries ih =>
    rw [execute] at h
    split_ifs at h with hagain
    · obtain ⟨events, hlog, tries, rfl, htries⟩ := ih h
      refine ⟨(c, (issue device c m).1) :: (tries ++ [_]), ?_, _ :: tries, rfl, ?_⟩
      · rw [hlog]
        exact List.append_assoc _ _ _
      · exact List.forall_mem_cons.mpr ⟨⟨rfl, hagain⟩, htries⟩
    · cases h
      exact ⟨_, rfl, [], rfl, by nofun⟩

theorem Attempts.command (h : Attempts again c reply events) {e : κ × ρ} (he : e ∈ events) : e.1 = c := by
  obtain ⟨tries, rfl, htries⟩ := h
  rcases List.mem_append.mp he with he | he
  · exact (htries e he).1
  · rw [List.mem_singleton.mp he]

theorem Attempts.mem (h : Attempts again c reply events) : (c, reply) ∈ events := by
  obtain ⟨tries, rfl, -⟩ := h
  exact List.mem_append_right _ List.mem_cons_self

/-- An event that does not ask for another attempt is the last. -/
theorem Attempts.eq_of_not_again (h : Attempts again c reply events) {e : κ × ρ} (he : e ∈ events)
    (hlast : again e.2 = false) :
    e = (c, reply) := by
  obtain ⟨tries, rfl, htries⟩ := h
  rcases List.mem_append.mp he with he | he
  · rw [(htries e he).2] at hlast
    cases hlast
  · exact List.mem_singleton.mp he

theorem IssuedBy.not {P : κ × ρ → Prop} (hsteps : ∀ step ∈ steps, ∀ v reply, ¬ P (step.command v, reply))
    {e : κ × ρ} (h : IssuedBy steps e) : ¬ P e := by
  obtain ⟨c, reply⟩ := e
  obtain ⟨step, hmem, v, rfl⟩ := h
  exact hsteps step hmem v reply

/-- What the first step of a sequence does. -/
theorem runSteps_cons (h : runSteps device again retries (step :: steps) v m = (error, v', m')) :
    ∃ reply m₁ tries, m₁.log = m.log ++ tries ∧ Attempts again (step.command v) reply tries ∧
      (step.verdict v reply = error ∧ error ≠ none ∧ v' = step.after v reply ∧ m' = m₁ ∨
        step.verdict v reply = none ∧
          runSteps device again retries steps (step.after v reply) m₁ = (error, v', m')) := by
  obtain ⟨tries, hlog, htries⟩ := execute_log (rfl : execute device again (step.command v) retries m = (_, _))
  refine ⟨_, _, tries, hlog, htries, ?_⟩
  rw [runSteps] at h
  cases hverdict : step.verdict v (execute device again (step.command v) retries m).1 with
  | some found =>
    rw [hverdict] at h
    cases h
    exact .inl ⟨rfl, by nofun, rfl, rfl⟩
  | none =>
    rw [hverdict] at h
    exact .inr ⟨rfl, h⟩

/-- **A sequence that gets through has had every reply accepted, in order.**  An error is that of
a step. -/
theorem runSteps_log (h : runSteps device again retries steps v m = (error, v', m')) :
    ∃ events, m'.log = m.log ++ events ∧ (∀ e ∈ events, IssuedBy steps e) ∧
      (error = none → ∃ passed, Accepted steps v passed v' ∧ passed.Sublist events) ∧
      ∀ found, error = some found → ∃ step ∈ steps, ∃ v reply, step.verdict v reply = some found := by
  induction steps generalizing v m with
  | nil =>
    cases h
    exact ⟨[], (List.append_nil _).symm, by nofun, fun _ => ⟨[], .nil _, .slnil⟩, by nofun⟩
  | cons step steps ih =>
    obtain ⟨reply, m₁, tries, hlog, htries, hcase⟩ := runSteps_cons h
    have hissued : ∀ e ∈ tries, IssuedBy (step :: steps) e :=
      fun e he => ⟨step, List.mem_cons_self, v, htries.command he⟩
    rcases hcase with ⟨hverdict, hne, rfl, rfl⟩ | ⟨hverdict, hrest⟩
    · refine ⟨tries, hlog, hissued, fun hnone => absurd hnone hne, fun found hfound => ?_⟩
      exact ⟨step, List.mem_cons_self, v, reply, hverdict.trans hfound⟩
    · obtain ⟨events, hlater, hcommands, hpassed, herror⟩ := ih hrest
      refine ⟨tries ++ events, by rw [hlater, hlog, List.append_assoc], fun e he => ?_, fun hnone => ?_,
        fun found hfound => ?_⟩
      · rcases List.mem_append.mp he with he | he
        · exact hissued e he
        · obtain ⟨step', hmem, hstep⟩ := hcommands e he
          exact ⟨step', List.mem_cons_of_mem _ hmem, hstep⟩
      · obtain ⟨passed, h, hsub⟩ := hpassed hnone
        exact ⟨_ :: passed, .cons hverdict h, (List.singleton_sublist.mpr htries.mem).append hsub⟩
      · obtain ⟨step', hmem, hstep⟩ := herror found hfound
        exact ⟨step', List.mem_cons_of_mem _ hmem, hstep⟩

/-- What no step touches stays. -/
theorem runSteps_keeps {α : Type} (keep : ν → α)
    (hkeep : ∀ step ∈ steps, ∀ v reply, keep (step.after v reply) = keep v)
    (h : runSteps device again retries steps v m = (error, v', m')) : keep v' = keep v := by
  induction steps generalizing v m with
  | nil =>
    cases h
    rfl
  | cons step steps ih =>
    obtain ⟨hhead, htail⟩ := List.forall_mem_cons.mp hkeep
    obtain ⟨reply, m₁, -, -, -, ⟨-, -, rfl, -⟩ | ⟨-, hrest⟩⟩ := runSteps_cons h
    · exact hhead v reply
    · exact (ih htail hrest).trans (hhead v reply)

theorem runSteps_append (h : runSteps device again retries (xs ++ ys) v m = (error, v', m')) :
    runSteps device again retries xs v m = (error, v', m') ∧ error ≠ none ∨
      ∃ v₁ m₁, runSteps device again retries xs v m = (none, v₁, m₁) ∧
        runSteps device again retries ys v₁ m₁ = (error, v', m') := by
  induction xs generalizing v m with
  | nil => exact .inr ⟨v, m, rfl, h⟩
  | cons step xs ih =>
    rw [List.cons_append, runSteps] at h
    rw [runSteps]
    cases hverdict : step.verdict v (execute device again (step.command v) retries m).1 with
    | some found =>
      rw [hverdict] at h
      cases h
      exact .inl ⟨rfl, by nofun⟩
    | none =>
      rw [hverdict] at h
      exact ih h

/-- A step that stands once in a sequence: the events of its kind hold what the variables keep of
its reply. -/
theorem runSteps_recorded {α : Type} (get : ν → α) (out : ρ → α) (P : κ × ρ → Prop)
    (xs : List (Step κ ρ ν ε)) (step : Step κ ρ ν ε) (ys : List (Step κ ρ ν ε))
    (hxs : ∀ step ∈ xs, ∀ v reply, ¬ P (step.command v, reply))
    (hys : ∀ step ∈ ys, ∀ v reply, ¬ P (step.command v, reply))
    (hget : ∀ v reply, get (step.after v reply) = out reply)
    (hkeep : ∀ step ∈ ys, ∀ v reply, get (step.after v reply) = get v)
    (hlast : ∀ e, P e → again e.2 = false)
    (h : runSteps device again retries (xs ++ step :: ys) v m = (error, v', m')) :
    ∃ events, m'.log = m.log ++ events ∧ ∀ e ∈ events, P e → out e.2 = get v' := by
  rcases runSteps_append h with ⟨hfront, -⟩ | ⟨v₁, m₁, hfront, hrest⟩
  · obtain ⟨front, hlog, hissued, -⟩ := runSteps_log hfront
    exact ⟨front, hlog, fun e he hP => absurd hP ((hissued e he).not hxs)⟩
  obtain ⟨front, hlog, hissued, -⟩ := runSteps_log hfront
  obtain ⟨reply, m₂, tries, hlog₂, htries, hcase⟩ := runSteps_cons hrest
  have hrecorded : ∀ e ∈ front ++ tries, P e → out e.2 = get (step.after v₁ reply) := by
    intro e he hP
    rcases List.mem_append.mp he with he | he
    · exact absurd hP ((hissued e he).not hxs)
    · rw [htries.eq_of_not_again he (hlast e hP), hget]
  rw [hlog, List.append_assoc] at hlog₂
  rcases hcase with ⟨-, -, rfl, rfl⟩ | ⟨-, hback⟩
  · exact ⟨front ++ tries, hlog₂, hrecorded⟩
  · obtain ⟨rest, hlog₃, hissued', -⟩ := runSteps_log hback
    refine ⟨(front ++ tries) ++ rest, by rw [hlog₃, hlog₂, List.append_assoc], fun e he hP => ?_⟩
    rcases List.mem_append.mp he with he | he
    · rw [runSteps_keeps get hkeep hback]
      exact hrecorded e he hP
    · exact absurd hP ((hissued' e he).not hys)

end Run

section Split

variable {α : Type} {xs ys before after : List α} {e : α} (P : α → Prop)

/-- An event of a kind that the first part of a log does not have. -/
theorem split_front (hxs : ∀ x ∈ xs, ¬ P x) (h : xs ++ ys = before ++ e :: after) (he : P e) :
    ∃ inner, before = xs ++ inner ∧ ys = inner ++ e :: after := by
  induction xs generalizing before with
  | nil => exact ⟨before, rfl, h⟩
  | cons x xs ih =>
    obtain ⟨hx, hxs⟩ := List.forall_mem_cons.mp hxs
    cases before with
    | nil =>
      cases h
      exact absurd he hx
    | cons y before =>
      obtain ⟨rfl, htail⟩ := List.cons.inj h
      obtain ⟨inner, rfl, hys⟩ := ih hxs htail
      exact ⟨inner, rfl, hys⟩

/-- An event of a kind that the second part of a log does not have. -/
theorem split_back (hys : ∀ y ∈ ys, ¬ P y) (h : xs ++ ys = before ++ e :: after) (he : P e) :
    ∃ rest, xs = before ++ e :: rest ∧ after = rest ++ ys := by
  induction xs generalizing before with
  | nil =>
    rw [List.nil_append] at h
    rw [h] at hys
    exact absurd he (hys e (List.mem_append_right _ List.mem_cons_self))
  | cons x xs ih =>
    cases before with
    | nil =>
      obtain ⟨rfl, rfl⟩ := List.cons.inj h
      exact ⟨xs, rfl, rfl⟩
    | cons y before =>
      obtain ⟨rfl, htail⟩ := List.cons.inj h
      obtain ⟨rest, rfl, hafter⟩ := ih htail
      exact ⟨rest, rfl, hafter⟩

end Split

end Commands
