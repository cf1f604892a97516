/-
The provisioning mode of the Pico (`pico/src/main.c`): the gate task, the provisioning task with
its line parser, and the main loop, over any sequence of polls.

A poll is what the device sees in one turn of the main loop: the clock, the button, whether the
host is connected and the octets the host's serial port gives.  The tunnel's own work touches
nothing of this and is left out.  `Pico.log` lists what happened.

* **`Sound`**, **`picoRun_sound`** — the invariant of the main loop;
* **`session_lines`** — the lines of a session, read off the octets alone;
* **`provisioning`** — the guarantees of the mode over every run.
-/
import Pbns.ProvisionGate
import Pbns.Credentials

namespace Pbns.Provision

open Octets

/-! ### The texts -/

def newline : Octet := 0x0a#8
def carriageReturn : Octet := 0x0d#8

/-- "PBNS-PROVISION-v1 READY\n" -/
def readyText : Octets :=
  [0x50#8, 0x42#8, 0x4e#8, 0x53#8, 0x2d#8, 0x50#8, 0x52#8, 0x4f#8, 0x56#8, 0x49#8, 0x53#8, 0x49#8,
    0x4f#8, 0x4e#8, 0x2d#8, 0x76#8, 0x31#8, 0x20#8, 0x52#8, 0x45#8, 0x41#8, 0x44#8, 0x59#8, 0x0a#8]

/-- "ERROR invalid command\n" -/
def invalidCommandText : Octets :=
  [0x45#8, 0x52#8, 0x52#8, 0x4f#8, 0x52#8, 0x20#8, 0x69#8, 0x6e#8, 0x76#8, 0x61#8, 0x6c#8, 0x69#8,
    0x64#8, 0x20#8, 0x63#8, 0x6f#8, 0x6d#8, 0x6d#8, 0x61#8, 0x6e#8, 0x64#8, 0x0a#8]

/-- "ERROR invalid record\n" -/
def invalidRecordText : Octets :=
  [0x45#8, 0x52#8, 0x52#8, 0x4f#8, 0x52#8, 0x20#8, 0x69#8, 0x6e#8, 0x76#8, 0x61#8, 0x6c#8, 0x69#8,
    0x64#8, 0x20#8, 0x72#8, 0x65#8, 0x63#8, 0x6f#8, 0x72#8, 0x64#8, 0x0a#8]

/-- "ERROR internal failure\n" -/
def internalFailureText : Octets :=
  [0x45#8, 0x52#8, 0x52#8, 0x4f#8, 0x52#8, 0x20#8, 0x69#8, 0x6e#8, 0x74#8, 0x65#8, 0x72#8, 0x6e#8,
    0x61#8, 0x6c#8, 0x20#8, 0x66#8, 0x61#8, 0x69#8, 0x6c#8, 0x75#8, 0x72#8, 0x65#8, 0x0a#8]

/-- "SET " -/
def setWord : Octets := [0x53#8, 0x45#8, 0x54#8, 0x20#8]

/-- "REBOOT" -/
def rebootWord : Octets := [0x52#8, 0x45#8, 0x42#8, 0x4f#8, 0x4f#8, 0x54#8]

def hexadecimalDigit (value : Octet) : Octet :=
  if value < 10#8 then 0x30#8 + value else 0x61#8 + value - 10#8

/-- "OK ", the digits of the digest, "\n" -/
def fingerprintText (digest : Octets) : Octets :=
  [0x4f#8, 0x4b#8, 0x20#8] ++
    digest.flatMap (fun b : Octet => [hexadecimalDigit (b >>> 4), hexadecimalDigit (b &&& 0x0f#8)]) ++
    [newline]

def controlLineCapacity : ℕ := 608

/-! ### The device -/

/-- `provisioning_parser`; the array and its length are the list of the octets in use. -/
structure ProvisioningParser where
  line : Octets
  discarding : Bool
  readySent : Bool
  provisioned : Bool
  deriving DecidableEq

def parserZero : ProvisioningParser := ⟨[], false, false, false⟩

inductive Event
  /-- A sample of the button and the gate's answer. -/
  | sampled (answer : Answer)
  /-- The provisioning mode begins; the host was connected or not. -/
  | activated (connected : Bool)
  /-- The session observes whether the host is connected. -/
  | observed (connected : Bool)
  | opened
  | sent (text : Octets)
  /-- A line was given to `process_set_command`, with its result. -/
  | command (line : Octets) (provisioned : Bool)
  | reboot
  deriving DecidableEq

/-- What the device is connected to: the serial port to the host (`send_text` reports whether the
whole text went out in time), the credential store and the library's Base64 and SHA-256. -/
structure PicoOps (σ : Type) where
  sendText : Octets → σ → Bool × σ
  base64Decode : ℕ → Octets → Option Octets
  store : Credentials → σ → Status × σ
  sha256 : Octets → Option Octets

structure Pico (σ : Type) where
  gate : ProvisionGate
  session : ProvisionSession
  parser : ProvisioningParser
  provisioningMode : Bool
  world : σ
  log : List Event

/-- The device before the main loop. -/
def picoStart {σ : Type} (world : σ) : Pico σ where
  gate := gateInit
  session := sessionInit
  parser := parserZero
  provisioningMode := false
  world := world
  log := []

section Tasks

variable {σ δ : Type} (ops : PicoOps σ) (q : Qcbor δ)

def Pico.note (e : Event) (m : Pico σ) : Pico σ := { m with log := m.log ++ [e] }

/-- `provisioning_parser_reset` -/
def parserReset (m : Pico σ) : Pico σ := { m with parser := parserZero }

def sendText (text : Octets) (m : Pico σ) : Bool × Pico σ :=
  match ops.sendText text m.world with
  | (sent, world) => (sent, { m with world, log := m.log ++ [.sent text] })

/-- `send_record_fingerprint` -/
def sendRecordFingerprint (record : Octets) (m : Pico σ) : Bool × Pico σ :=
  match ops.sha256 record with
  | none => (false, (sendText ops internalFailureText m).2)
  | some digest => sendText ops (fingerprintText digest) m

def rejectRecord (m : Pico σ) : Bool × Pico σ := (false, (sendText ops invalidRecordText m).2)

/-- `process_set_command` -/
def processSetCommand (line : Octets) (m : Pico σ) : Bool × Pico σ :=
  if line.length ≤ 4 ∨ line.take 4 ≠ setWord then (false, m)
  else
    match ops.base64Decode credentialsCborMax (line.drop 4) with
    | none => rejectRecord ops m
    | some record =>
      match credentialsDecodeCbor q record with
      | .error _ => rejectRecord ops m
      | .ok credentials =>
        match ops.store credentials m.world with
        | (.ok, world) =>
          match sendRecordFingerprint ops record { m with world } with
          | (true, m) => (true, m)
          | (false, m) => rejectRecord ops m
        | (_, world) => rejectRecord ops { m with world }

/-- The line without a carriage return at its end. -/
def trimLine (line : Octets) : Octets :=
  if line.getLast? = some carriageReturn then line.dropLast else line

/-- `provisioning_task` at the end of a line. -/
def endLine (m : Pico σ) : Pico σ :=
  let m :=
    if m.parser.discarding then (sendText ops invalidCommandText m).2
    else
      let line := trimLine m.parser.line
      if line = rebootWord ∧ m.parser.provisioned = true then (parserReset m).note .reboot
      else
        match processSetCommand ops q line m with
        | (provisioned, m) =>
          { m with
            parser.provisioned := provisioned
            log := m.log ++ [.command line provisioned] }
  { m with parser.line := [], parser.discarding := false }

/-- `provisioning_task` on one octet. -/
def takeOctet (m : Pico σ) (octet : Octet) : Pico σ :=
  if octet = newline then endLine ops q m
  else if m.parser.discarding then m
  else if controlLineCapacity ≤ m.parser.line.length then
    { m with parser.line := [], parser.discarding := true }
  else { m with parser.line := m.parser.line ++ [octet] }

/-- The greeting of `provisioning_task`, until it went out once. -/
def greet (m : Pico σ) : Pico σ :=
  if m.parser.readySent = false then
    match sendText ops readyText m with
    | (sent, m) => { m with parser.readySent := sent }
  else m

/-- `provisioning_task` -/
def provisioningTask (connected : Bool) (received : Octets) (m : Pico σ) : Pico σ :=
  match sessionObserve m.session connected with
  | (status, opened, session) =>
    let m := { m with session, log := m.log ++ [.observed connected] }
    if status ≠ .ok then parserReset m
    else if connected = false then parserReset m
    else
      let m := if opened then (parserReset m).note .opened else m
      if sessionIsReady session = false then parserReset m
      else received.foldl (takeOctet ops q) (greet ops m)

/-- `activate_provisioning` -/
def activateProvisioning (connected : Bool) (m : Pico σ) : Pico σ :=
  let m := parserReset m
  match sessionActivate m.session connected with
  | (status, session) =>
    let m := { m with session }
    if status = .ok then { m with provisioningMode := true, log := m.log ++ [.activated connected] }
    else m

/-- `physical_gate_task` -/
def physicalGateTask (sample : Sample) (connected : Bool) (m : Pico σ) : Pico σ :=
  if gateSampleDue m.gate sample.nowMs = false then m
  else
    match gateObserve m.gate sample.nowMs sample.pressed with
    | (status, activated, gate) =>
      let m := { m with gate, log := m.log ++ [.sampled ⟨sample, status, activated⟩] }
      if status = .ok ∧ activated = true then activateProvisioning connected m else m

/-- What the device sees in a turn of the main loop.  The host's connection is looked at twice:
when the mode begins and by the provisioning task. -/
structure Poll where
  sample : Sample
  connectedThen : Bool
  connected : Bool
  received : Octets

/-- A turn of the main loop. -/
def mainTurn (m : Pico σ) (poll : Poll) : Pico σ :=
  let m := if m.provisioningMode then m else physicalGateTask poll.sample poll.connectedThen m
  if m.provisioningMode then provisioningTask ops q poll.connected poll.received m else m

def picoRun (polls : List Poll) (m : Pico σ) : Pico σ := polls.foldl (mainTurn ops q) m

end Tasks

/-! ### Splitting a log -/

/-- An element of an appended list is in one of the parts. -/
theorem split_of_append {α : Type} {l events before after : List α} {x : α}
    (h : l ++ events = before ++ x :: after) :
    (∃ after', l = before ++ x :: after' ∧ after = after' ++ events) ∨
      ∃ before', events = before' ++ x :: after ∧ before = l ++ before' := by
  rcases List.append_eq_append_iff.mp h with ⟨middle, hbefore, hevents⟩ | ⟨middle, hl, hrest⟩
  · exact .inr ⟨middle, hevents, hbefore⟩
  · cases middle with
    | nil => exact .inr ⟨[], hrest.symm, by rw [hl, List.append_nil, List.append_nil]⟩
    | cons head middle =>
      obtain ⟨hhead, hafter⟩ := List.cons.inj hrest
      exact .inl ⟨middle, by rw [hl, hhead], hafter⟩

theorem split_of_concat {α : Type} {l before after : List α} {x y : α}
    (h : l ++ [y] = before ++ x :: after) :
    (∃ after', l = before ++ x :: after') ∨ before = l ∧ y = x ∧ after = [] := by
  rcases split_of_append h with ⟨after', hl, -⟩ | ⟨before', hevents, hbefore⟩
  · exact .inl ⟨after', hl⟩
  · obtain ⟨rfl, hlast⟩ | ⟨rest, -, hnil⟩ := List.cons_eq_append_iff.mp hevents
    · obtain ⟨hx, hafter⟩ := List.cons.inj hlast
      exact .inr ⟨hbefore.trans (List.append_nil l), hx.symm, hafter⟩
    · simp at hnil

/-! ### The lines of a session -/

inductive Line
  | overlong
  | text (line : Octets)
  deriving DecidableEq

/-- The line that an event is about: the error text is the answer to a line that is too long. -/
def Event.line : Event → Option Line
  | .sent text => if text = invalidCommandText then some .overlong else none
  | .command line _ => some (.text line)
  | .reboot => some (.text rebootWord)
  | _ => none

/-- What the octets before a newline are to the parser. -/
def readLine (raw : Octets) : Line :=
  if controlLineCapacity < raw.length then .overlong else .text (trimLine raw)

/-- The parser has taken the octets `pending` since the last newline. -/
structure Collecting (pending : Octets) (parser : ProvisioningParser) : Prop where
  discarding : parser.discarding = true ↔ controlLineCapacity < pending.length
  line : parser.discarding = false → parser.line = pending

theorem Collecting.empty {parser : ProvisioningParser} (hline : parser.line = [])
    (hdiscarding : parser.discarding = false) : Collecting [] parser where
  discarding := by
    rw [hdiscarding]
    exact ⟨nofun, nofun⟩
  line _ := hline

theorem parserZero_collecting : Collecting [] parserZero := Collecting.empty rfl rfl

section Octets

variable {σ δ : Type} (ops : PicoOps σ) (q : Qcbor δ)

/-- The machine went on by work outside and by sending texts, none of them the answer to a line
that is too long. -/
def Talked (m m' : Pico σ) : Prop :=
  ∃ (world : σ) (texts : List Octets), invalidCommandText ∉ texts ∧
    m' = { m with world, log := m.log ++ texts.map Event.sent }

theorem Talked.outside (m : Pico σ) (world : σ) : Talked m { m with world } :=
  ⟨world, [], nofun, by rw [List.map_nil, List.append_nil]⟩

theorem Talked.trans {m₁ m₂ m₃ : Pico σ} (h : Talked m₁ m₂) (h' : Talked m₂ m₃) :
    Talked m₁ m₃ := by
  obtain ⟨world, texts, htexts, rfl⟩ := h
  obtain ⟨world', texts', htexts', rfl⟩ := h'
  refine ⟨world', texts ++ texts', ?_, ?_⟩
  · exact fun hmem => (List.mem_append.mp hmem).elim htexts htexts'
  · rw [List.map_append, ← List.append_assoc]

theorem sendText_talked {text : Octets} (h : invalidCommandText ≠ text) (m : Pico σ) :
    Talked m (sendText ops text m).2 :=
  ⟨_, [text], fun hmem => h (List.mem_singleton.mp hmem), rfl⟩

theorem rejectRecord_talked (m : Pico σ) : Talked m (rejectRecord ops m).2 :=
  sendText_talked ops (by decide) m

theorem sendRecordFingerprint_talked (record : Octets) (m : Pico σ) :
    Talked m (sendRecordFingerprint ops record m).2 := by
  unfold sendRecordFingerprint
  split
  · exact sendText_talked ops (by decide) m
  · refine sendText_talked ops ?_ m
    intro h
    -- the one text begins with an E, the other with an O
    have hhead : (0x45#8 : Octet) = 0x4f#8 := List.head_eq_of_cons_eq h
    cases hhead

theorem processSetCommand_talked (line : Octets) (m : Pico σ) :
    Talked m (processSetCommand ops q line m).2 := by
  unfold processSetCommand
  split
  · exact Talked.outside m m.world
  · split
    · exact rejectRecord_talked ops m
    · rename_i record _
      split
      · exact rejectRecord_talked ops m
      · rename_i credentials _
        rcases ops.store credentials m.world with ⟨status, world⟩
        have hstored := Talked.outside m world
        cases status with
        | ok =>
          have hsent := hstored.trans (sendRecordFingerprint_talked ops record { m with world })
          dsimp only
          rcases hfingerprint : sendRecordFingerprint ops record { m with world } with ⟨sent, m'⟩
          rw [hfingerprint] at hsent
          cases sent with
          | true => exact hsent
          | false => exact hsent.trans (rejectRecord_talked ops m')
        | _ => exact hstored.trans (rejectRecord_talked ops _)

variable {m : Pico σ} {pending : Octets}

/-- A command that succeeds is a SET. -/
theorem processSetCommand_word {line : Octets} (h : (processSetCommand ops q line m).1 = true) : line.take 4 = setWord := by
  unfold processSetCommand at h
  split at h
  · cases h
  · rename_i hword
    exact not_not.mp (not_or.mp hword).2

/-! ### An octet -/

variable (h : Collecting pending m.parser)

include h

/-- What an octet that ends no line does. -/
theorem takeOctet_inner {octet : Octet} (hoctet : octet ≠ newline) :
    ∃ parser, takeOctet ops q m octet = { m with parser } ∧
      parser.provisioned = m.parser.provisioned ∧ Collecting (pending ++ [octet]) parser := by
  unfold takeOctet
  rw [if_neg hoctet]
  have hlength : (pending ++ [octet]).length = pending.length + 1 := by simp
  split
  · rename_i hdiscarding
    have hlong := h.discarding.mp hdiscarding
    refine ⟨m.parser, rfl, rfl, ⟨⟨fun _ => ?_, fun _ => hdiscarding⟩, ?_⟩⟩
    · omega
    · intro hnot
      rw [hdiscarding] at hnot
      cases hnot
  · rename_i hdiscarding
    have hkept := h.line (Bool.of_not_eq_true hdiscarding)
    have hshort : ¬ controlLineCapacity < pending.length := fun hlong =>
      hdiscarding (h.discarding.mpr hlong)
    rw [hkept]
    split
    · rename_i hfull
      refine ⟨_, rfl, rfl, ⟨⟨fun _ => ?_, fun _ => rfl⟩, nofun⟩⟩
      omega
    · rename_i hroom
      refine ⟨_, rfl, rfl, ⟨⟨fun hnot => absurd hnot hdiscarding, ?_⟩, fun _ => rfl⟩⟩
      intro hlong
      omega

/-- The three things a newline can do: answer a line that was too long, reboot, or process a
command. -/
theorem takeOctet_newline :
    ∃ world texts parser event,
      takeOctet ops q m newline =
        { m with world, parser, log := m.log ++ texts.map Event.sent ++ [event] } ∧
      invalidCommandText ∉ texts ∧ Collecting [] parser ∧
      event.line = some (readLine pending) ∧
      (event = .sent invalidCommandText ∧ texts = [] ∧
          parser.provisioned = m.parser.provisioned ∨
        event = .reboot ∧ texts = [] ∧ m.parser.provisioned = true ∧ parser.provisioned = false ∨
        ∃ line, event = .command line parser.provisioned ∧
          (parser.provisioned = true → line.take 4 = setWord)) := by
  unfold takeOctet
  rw [if_pos rfl]
  unfold endLine
  by_cases hdiscarding : m.parser.discarding = true
  · rw [if_pos hdiscarding]
    have hline : readLine pending = .overlong := if_pos (h.discarding.mp hdiscarding)
    refine ⟨(ops.sendText invalidCommandText m.world).2, [],
      { m.parser with line := [], discarding := false }, .sent invalidCommandText, ?_, nofun,
      Collecting.empty rfl rfl, ?_, .inl ⟨rfl, rfl, rfl⟩⟩
    · rw [List.map_nil, List.append_nil]
      rfl
    · rw [hline, Event.line, if_pos rfl]
  · rw [if_neg hdiscarding]
    have hkept := h.line (Bool.of_not_eq_true hdiscarding)
    have hline : readLine pending = .text (trimLine pending) :=
      if_neg fun hlong => hdiscarding (h.discarding.mpr hlong)
    rw [hkept]
    dsimp only
    split
    · rename_i hreboot
      refine ⟨m.world, [], parserZero, .reboot, ?_, nofun, Collecting.empty rfl rfl, ?_,
        .inr (.inl ⟨rfl, rfl, hreboot.2, rfl⟩)⟩
      · rw [List.map_nil, List.append_nil]
        rfl
      · rw [hline, hreboot.1]
        rfl
    · obtain ⟨world, texts, htexts, hm⟩ := processSetCommand_talked ops q (trimLine pending) m
      rcases hcommand : processSetCommand ops q (trimLine pending) m with ⟨provisioned, m'⟩
      rw [hcommand] at hm
      refine ⟨world, texts, { m.parser with line := [], discarding := false, provisioned },
        .command (trimLine pending) provisioned, ?_, htexts, Collecting.empty rfl rfl, ?_,
        .inr (.inr ⟨_, rfl, fun htrue => ?_⟩)⟩
      · have hm' : m' = { m with world, log := m.log ++ texts.map Event.sent } := hm
        rw [hm']
      · rw [hline]
        rfl
      · exact processSetCommand_word ops q (m := m) (by rw [hcommand]; exact htrue)

/-! ### The octets of a poll -/

/-- The lines that end in `stream` and the octets after the last of them, when `pending` came
before. -/
def linesFrom : Octets → Octets → List Octets × Octets
  | pending, [] => ([], pending)
  | pending, octet :: stream =>
    if octet = newline then (pending :: (linesFrom [] stream).1, (linesFrom [] stream).2)
    else linesFrom (pending ++ [octet]) stream

omit h in
theorem linesFrom_append (pending first second : Octets) :
    linesFrom pending (first ++ second) =
      ((linesFrom pending first).1 ++ (linesFrom (linesFrom pending first).2 second).1,
        (linesFrom (linesFrom pending first).2 second).2) := by
  induction first generalizing pending with
  | nil => rfl
  | cons octet first ih =>
    rw [List.cons_append, linesFrom, linesFrom]
    split
    · rw [ih]
      rfl
    · exact ih _

omit h in
/-- The lines are what stands between the newlines, but for what comes after the last one. -/
theorem linesFrom_eq_splitOn (pending stream : Octets) :
    (linesFrom pending stream).1 =
      ((stream.splitOn newline).modifyHead (pending ++ ·)).dropLast := by
  have hne : ∀ s : Octets, s.splitOn newline ≠ [] := fun s => List.splitOnP_ne_nil _ s
  induction stream generalizing pending with
  | nil => rfl
  | cons octet stream ih =>
    have hsplit : (octet :: stream).splitOn newline =
        if (octet == newline) = true then [] :: stream.splitOn newline
        else (stream.splitOn newline).modifyHead (List.cons octet) :=
      List.splitOnP_cons_eq_if_modifyHead octet stream
    rw [linesFrom, hsplit]
    obtain ⟨head, tail, htail⟩ := List.exists_cons_of_ne_nil (hne stream)
    split
    · rename_i hnewline
      rw [if_pos (beq_iff_eq.mpr hnewline), ih, htail]
      simp
    · rename_i hnewline
      rw [if_neg fun h => hnewline (beq_iff_eq.mp h), ih, htail]
      simp

/-- The events that octets cause. -/
def Event.Spoken : Event → Prop
  | .sent _ => True
  | .command _ _ => True
  | .reboot => True
  | _ => False

/-- The machine has taken the octets `received` after `pending`. -/
structure Taken (pending received : Octets) (m m' : Pico σ) : Prop where
  gate : m'.gate = m.gate
  session : m'.session = m.session
  mode : m'.provisioningMode = m.provisioningMode
  collecting : Collecting (linesFrom pending received).2 m'.parser
  log : ∃ events, m'.log = m.log ++ events ∧ (∀ e ∈ events, e.Spoken) ∧
    events.filterMap Event.line = (linesFrom pending received).1.map readLine

theorem Taken.refl :
    Taken pending [] m m where
  gate := rfl
  session := rfl
  mode := rfl
  collecting := h
  log := ⟨[], (List.append_nil _).symm, nofun, rfl⟩

omit h in
theorem Taken.trans {first second : Octets} {m₁ m₂ m₃ : Pico σ} (h : Taken pending first m₁ m₂)
    (h' : Taken (linesFrom pending first).2 second m₂ m₃) :
    Taken pending (first ++ second) m₁ m₃ where
  gate := h'.gate.trans h.gate
  session := h'.session.trans h.session
  mode := h'.mode.trans h.mode
  collecting := by
    rw [linesFrom_append]
    exact h'.collecting
  log := by
    obtain ⟨events, hlog, hspoken, hlines⟩ := h.log
    obtain ⟨events', hlog', hspoken', hlines'⟩ := h'.log
    refine ⟨events ++ events', by rw [hlog', hlog, List.append_assoc], ?_, ?_⟩
    · exact fun e he => (List.mem_append.mp he).elim (hspoken e) (hspoken' e)
    · rw [List.filterMap_append, hlines, hlines', linesFrom_append, List.map_append]

omit h in
theorem filterMap_line_sent {texts : List Octets} (h : invalidCommandText ∉ texts) :
    (texts.map Event.sent).filterMap Event.line = [] := by
  rw [List.filterMap_map, List.filterMap_eq_nil_iff]
  intro text htext
  refine if_neg fun heq => h ?_
  rw [← heq]
  exact htext

theorem takeOctet_taken (octet : Octet) : Taken pending [octet] m (takeOctet ops q m octet) := by
  by_cases hoctet : octet = newline
  · obtain ⟨world, texts, parser, event, heq, htexts, hcollecting, hline, hkind⟩ :=
      takeOctet_newline ops q h
    have hlines : linesFrom pending [octet] = ([pending], []) := by
      rw [linesFrom, if_pos hoctet]
      rfl
    rw [hoctet, heq, ← hoctet]
    refine ⟨rfl, rfl, rfl, hlines ▸ hcollecting, texts.map Event.sent ++ [event], ?_, ?_, ?_⟩
    · rw [List.append_assoc]
    · intro e he
      rcases List.mem_append.mp he with hmem | hmem
      · obtain ⟨text, -, rfl⟩ := List.mem_map.mp hmem
        trivial
      · rw [List.mem_singleton.mp hmem]
        rcases hkind with ⟨rfl, -⟩ | ⟨rfl, -⟩ | ⟨line, rfl, -⟩ <;> trivial
    · rw [hlines, List.filterMap_append, filterMap_line_sent htexts]
      simp [hline]
  · obtain ⟨parser, heq, -, hcollecting⟩ := takeOctet_inner ops q h hoctet
    have hlines : linesFrom pending [octet] = ([], pending ++ [octet]) := by
      rw [linesFrom, if_neg hoctet]
      rfl
    rw [heq]
    exact ⟨rfl, rfl, rfl, hlines ▸ hcollecting, [], (List.append_nil _).symm, nofun, by rw [hlines]; rfl⟩

theorem foldl_taken (received : Octets) :
    Taken pending received m (received.foldl (takeOctet ops q) m) := by
  induction received generalizing m pending with
  | nil => exact Taken.refl h
  | cons octet received ih =>
    have hfirst := takeOctet_taken ops q h octet
    exact hfirst.trans (ih hfirst.collecting)

/-! ### Earning a reboot -/

/-- An event that leaves a session and its last command as they are. -/
def Event.Neutral : Event → Prop
  | .sent _ => True
  | .observed connected => connected = true
  | _ => False

/-- The last line of the running session that was not too long was a successful SET. -/
def Earned (log : List Event) : Prop :=
  ∃ before line after, log = before ++ .command line true :: after ∧ line.take 4 = setWord ∧
    ∀ e ∈ after, e.Neutral

omit h

theorem Earned.append {log events : List Event} (h : Earned log)
    (hneutral : ∀ e ∈ events, e.Neutral) : Earned (log ++ events) := by
  obtain ⟨before, line, after, hlog, hword, hafter⟩ := h
  refine ⟨before, line, after ++ events, ?_, hword, ?_⟩
  · rw [hlog, List.append_assoc, List.cons_append]
  · exact fun e he => (List.mem_append.mp he).elim (hafter e) (hneutral e)

/-- The parser's flag and every reboot are earned. -/
structure Rebooting (m : Pico σ) : Prop where
  provisioned : m.parser.provisioned = true → Earned m.log
  reboots : ∀ before after, m.log = before ++ .reboot :: after → Earned before

/-- Events without a reboot. -/
theorem Rebooting.append {m' : Pico σ} (h : Rebooting m) (events : List Event)
    (hlog : m'.log = m.log ++ events) (hnone : Event.reboot ∉ events)
    (hprovisioned : m'.parser.provisioned = true → Earned m'.log) : Rebooting m' where
  provisioned := hprovisioned
  reboots before after hsplit := by
    rw [hlog] at hsplit
    rcases split_of_append hsplit with ⟨after', hl, -⟩ | ⟨before', hevents, -⟩
    · exact h.reboots before after' hl
    · exact absurd (hevents ▸ by simp) hnone

theorem Rebooting.takeOctet (h : Rebooting m) (hcollecting : Collecting pending m.parser)
    (octet : Octet) :
    Rebooting (takeOctet ops q m octet) := by
  by_cases hoctet : octet = newline
  · obtain ⟨world, texts, parser, event, heq, htexts, -, -, hkind⟩ :=
      takeOctet_newline ops q hcollecting
    rw [hoctet, heq]
    rcases hkind with ⟨rfl, rfl, hsame⟩ | ⟨rfl, rfl, hearned, hcleared⟩ | ⟨line, rfl, hword⟩
    · refine h.append [.sent invalidCommandText] ?_ (by simp) ?_
      · rw [List.map_nil, List.append_nil]
      · intro hprovisioned
        rw [List.map_nil, List.append_nil]
        exact (h.provisioned (hsame ▸ hprovisioned)).append
          (List.forall_mem_singleton.mpr trivial)
    · refine ⟨fun hprovisioned => ?_, ?_⟩
      · rw [hcleared] at hprovisioned
        cases hprovisioned
      · intro before after hsplit
        rw [List.map_nil, List.append_nil] at hsplit
        rcases split_of_concat hsplit with ⟨after', hl⟩ | ⟨hbefore, -, -⟩
        · exact h.reboots before after' hl
        · -- the reboot of this line: the flag was set
          rw [hbefore]
          exact h.provisioned hearned
    · refine h.append (texts.map Event.sent ++ [.command line parser.provisioned]) ?_ ?_ ?_
      · rw [List.append_assoc]
      · simp
      · intro hprovisioned
        exact ⟨_, line, [], by rw [hprovisioned], hword hprovisioned, nofun⟩
  · obtain ⟨parser, heq, hsame, -⟩ := takeOctet_inner ops q hcollecting hoctet
    rw [heq]
    exact ⟨fun hprovisioned => h.provisioned (hsame ▸ hprovisioned), h.reboots⟩

theorem Rebooting.foldl (h : Rebooting m) (hcollecting : Collecting pending m.parser)
    (received : Octets) :
    Rebooting (received.foldl (Provision.takeOctet ops q) m) := by
  induction received generalizing m pending with
  | nil => exact h
  | cons octet received ih =>
    exact ih (h.takeOctet ops q hcollecting octet)
      (takeOctet_taken ops q hcollecting octet).collecting

end Octets

/-! ### A poll -/

section Polls

variable {σ δ : Type} (ops : PicoOps σ) (q : Qcbor δ)

variable {m : Pico σ} {pending : Octets} {poll : Poll}

/-- The greeting is no line. -/
theorem greet_taken (h : Collecting pending m.parser) :
    Taken pending [] m (greet ops m) := by
  unfold greet
  split
  · refine ⟨rfl, rfl, rfl, ⟨h.discarding, h.line⟩, [.sent readyText], rfl, ?_, ?_⟩
    · exact List.forall_mem_singleton.mpr trivial
    · have hline : (Event.sent readyText).line = none := by
        rw [Event.line, if_neg (by decide)]
      rw [List.filterMap_cons_none hline]
      rfl
  · exact Taken.refl h

theorem Rebooting.greet (h : Rebooting m) : Rebooting (greet ops m) := by
  unfold Provision.greet
  split
  · refine h.append [.sent readyText] rfl (by simp) fun hprovisioned => ?_
    exact (h.provisioned hprovisioned).append (List.forall_mem_singleton.mpr trivial)
  · exact h

/-- A poll in a ready session: the greeting and the octets. -/
theorem session_taken (h : Collecting pending m.parser) (received : Octets) :
    Taken pending received m (received.foldl (takeOctet ops q) (greet ops m)) := by
  have hgreet := greet_taken ops h
  exact hgreet.trans (foldl_taken ops q hgreet.collecting received)

/-- The session that a fresh connection opens. -/
def opening (m : Pico σ) : Pico σ :=
  { m with
    parser := parserZero, session := { m.session with state := .ready }
    log := m.log ++ [.observed true] ++ [.opened] }

/-- What the provisioning task does: it looks at the connection, and in a ready session it greets
and takes the octets. -/
theorem provisioningTask_cases (connected : Bool) (received : Octets)
    (hinitialized : m.session.initialized = true) :
    (∃ session, session.initialized = true ∧ session.state ≠ .ready ∧
        (session.state = .waitConnect → m.session.state = .waitConnect ∨ connected = false) ∧
        (connected = true → m.session.state ≠ .ready ∧ m.session.state ≠ .waitConnect) ∧
        provisioningTask ops q connected received m =
          parserReset { m with session, log := m.log ++ [.observed connected] }) ∨
      connected = true ∧ m.session.state = .ready ∧
        provisioningTask ops q connected received m =
          received.foldl (takeOctet ops q)
            (greet ops { m with log := m.log ++ [.observed true] }) ∨
      connected = true ∧ m.session.state = .waitConnect ∧
        provisioningTask ops q connected received m =
          received.foldl (takeOctet ops q)
            (greet ops (opening m)) := by
  unfold provisioningTask sessionObserve
  rw [if_neg (by rw [hinitialized]; nofun)]
  cases hstate : m.session.state with
  | inactive =>
    refine .inl ⟨m.session, hinitialized, by rw [hstate]; nofun, ?_, fun _ => ⟨nofun, nofun⟩, rfl⟩
    intro hwait
    rw [hstate] at hwait
    cases hwait
  | waitDisconnect =>
    cases connected with
    | true =>
      refine .inl ⟨m.session, hinitialized, by rw [hstate]; nofun, ?_, fun _ => ⟨nofun, nofun⟩, ?_⟩
      · intro hwait
        rw [hstate] at hwait
        cases hwait
      · simp [sessionIsReady, hstate]
    | false =>
      exact .inl ⟨{ m.session with state := .waitConnect }, hinitialized, by nofun,
        fun _ => .inr rfl, nofun, rfl⟩
  | waitConnect =>
    cases connected with
    | true =>
      refine .inr (.inr ⟨rfl, rfl, ?_⟩)
      simp [sessionIsReady, hinitialized, parserReset, Pico.note, opening]
    | false =>
      exact .inl ⟨m.session, hinitialized, by rw [hstate]; nofun, fun _ => .inr rfl, nofun, rfl⟩
  | ready =>
    cases connected with
    | true =>
      refine .inr (.inl ⟨rfl, rfl, ?_⟩)
      simp [sessionIsReady, hinitialized, hstate]
    | false =>
      exact .inl ⟨{ m.session with state := .waitConnect }, hinitialized, by nofun,
        fun _ => .inr rfl, nofun, rfl⟩

/-! ### Waiting for a fresh connection -/

/-- What the session's state says about the events after an activation that found the host
connected. -/
structure Waited (state : SessionState) (after : List Event) : Prop where
  disconnected : state = .waitConnect → [.observed false].Sublist after
  reconnected : state = .ready → [.observed false, .observed true].Sublist after
  quiet : ∀ before event rest, after = before ++ event :: rest → event.line.isSome = true →
    [.observed false, .observed true].Sublist before

theorem Waited.start : Waited .waitDisconnect [] where
  disconnected := nofun
  reconnected := nofun
  quiet before event rest h := absurd h (by simp)

/-- Events that are no lines, or any in a ready session. -/
theorem Waited.append {state : SessionState} {after : List Event} (h : Waited state after)
    (events : List Event) (hevents : state = .ready ∨ ∀ e ∈ events, e.line = none) : Waited state (after ++ events) where
  disconnected hwait := (h.disconnected hwait).trans (List.sublist_append_left _ _)
  reconnected hready := (h.reconnected hready).trans (List.sublist_append_left _ _)
  quiet before event rest hsplit hline := by
    rcases split_of_append hsplit with ⟨rest', hafter, -⟩ | ⟨before', hmem, hbefore⟩
    · exact h.quiet before event rest' hafter hline
    · rcases hevents with hready | hnone
      · rw [hbefore]
        exact (h.reconnected hready).trans (List.sublist_append_left _ _)
      · rw [hnone event (hmem ▸ by simp)] at hline
        cases hline

/-- An observation of the connection moves the session. -/
theorem Waited.observed {state state' : SessionState} {after : List Event} {connected : Bool}
    (h : Waited state after)
    (hwait : state' = .waitConnect → state = .waitConnect ∨ connected = false)
    (hready : state' = .ready → state = .ready ∨ state = .waitConnect ∧ connected = true) :
    Waited state' (after ++ [.observed connected]) where
  disconnected hstate := by
    rcases hwait hstate with hbefore | hconnected
    · exact (h.disconnected hbefore).trans (List.sublist_append_left _ _)
    · rw [hconnected]
      exact List.sublist_append_right _ _
  reconnected hstate := by
    rcases hready hstate with hbefore | ⟨hbefore, hconnected⟩
    · exact (h.reconnected hbefore).trans (List.sublist_append_left _ _)
    · rw [hconnected]
      exact (h.disconnected hbefore).append (List.Sublist.refl [Event.observed true])
  quiet := (h.append _ (.inr (List.forall_mem_singleton.mpr rfl))).quiet

/-! ### The run -/

def Event.answer : Event → Option Answer
  | .sampled answer => some answer
  | _ => none

/-- The invariant of the main loop. -/
structure Sound (m : Pico σ) : Prop where
  initialized : m.session.initialized = true
  collecting : ∃ pending, Collecting pending m.parser
  rebooting : Rebooting m
  gate : ∃ samples, m.gate = gateAfter gateInit samples ∧
    m.log.filterMap Event.answer = gateSamples gateInit samples
  waiting : m.provisioningMode = false → m.parser = parserZero ∧ ∀ connected, .activated connected ∉ m.log
  triggered : ∀ before connected after, m.log = before ++ .activated connected :: after →
    ∃ earlier answer, before = earlier ++ [.sampled answer] ∧ answer.activated = true
  waited : ∀ before after, m.log = before ++ .activated true :: after →
    Waited m.session.state after

theorem picoStart_sound (world : σ) : Sound (picoStart world) where
  initialized := rfl
  collecting := ⟨[], Collecting.empty rfl rfl⟩
  rebooting := ⟨nofun, fun before after h => absurd h (by simp [picoStart])⟩
  gate := ⟨[], rfl, rfl⟩
  waiting _ := ⟨rfl, fun _ => by simp [picoStart]⟩
  triggered before connected after h := absurd h (by simp [picoStart])
  waited before after h := absurd h (by simp [picoStart])

/-- The steps of the provisioning task neither sample nor activate. -/
structure Provisioned (m m' : Pico σ) (events : List Event) : Prop where
  log : m'.log = m.log ++ events
  gate : m'.gate = m.gate
  mode : m'.provisioningMode = m.provisioningMode
  initialized : m'.session.initialized = true
  collecting : ∃ pending, Collecting pending m'.parser
  rebooting : Rebooting m'
  plain : ∀ e ∈ events, e.answer = none ∧ ∀ connected, e ≠ .activated connected
  waited : ∀ after, Waited m.session.state after → Waited m'.session.state (after ++ events)

theorem Sound.provisioned {m' : Pico σ} {events : List Event} (h : Sound m)
    (hmode : m.provisioningMode = true) (hstep : Provisioned m m' events) : Sound m' where
  initialized := hstep.initialized
  collecting := hstep.collecting
  rebooting := hstep.rebooting
  gate := by
    obtain ⟨samples, hsamples, hanswers⟩ := h.gate
    refine ⟨samples, hstep.gate.trans hsamples, ?_⟩
    have hnone : events.filterMap Event.answer = [] :=
      List.filterMap_eq_nil_iff.mpr fun e he => (hstep.plain e he).1
    rw [hstep.log, List.filterMap_append, hnone, List.append_nil]
    exact hanswers
  waiting hnot := by
    rw [hstep.mode, hmode] at hnot
    cases hnot
  triggered before connected after hsplit := by
    rw [hstep.log] at hsplit
    rcases split_of_append hsplit with ⟨after', hl, -⟩ | ⟨before', hevents, -⟩
    · exact h.triggered before connected after' hl
    · exact absurd rfl ((hstep.plain _ (hevents ▸ by simp)).2 connected)
  waited before after hsplit := by
    rw [hstep.log] at hsplit
    rcases split_of_append hsplit with ⟨after', hl, hafter⟩ | ⟨before', hevents, -⟩
    · rw [hafter]
      exact hstep.waited after' (h.waited before after' hl)
    · exact absurd rfl ((hstep.plain _ (hevents ▸ by simp)).2 true)

theorem Event.Spoken.plain {e : Event} (h : e.Spoken) :
    e.answer = none ∧ ∀ connected, e ≠ .activated connected := by
  cases e <;> first | exact h.elim | exact ⟨rfl, nofun⟩

/-- The octets of a ready session. -/
theorem Provisioned.taken {m₀ : Pico σ} {events : List Event} (h : Provisioned m m₀ events)
    (hready : m₀.session.state = .ready) (received : Octets) :
    ∃ spoken, Provisioned m (received.foldl (takeOctet ops q) (greet ops m₀))
      (events ++ spoken) := by
  obtain ⟨pending, hcollecting⟩ := h.collecting
  have htaken := session_taken ops q hcollecting received
  obtain ⟨spoken, hspoken, hall, -⟩ := htaken.log
  refine ⟨spoken, ?_, htaken.gate.trans h.gate, htaken.mode.trans h.mode, ?_,
    ⟨_, htaken.collecting⟩, ?_, ?_, ?_⟩
  · rw [hspoken, h.log, List.append_assoc]
  · rw [htaken.session]
    exact h.initialized
  · exact (h.rebooting.greet ops).foldl ops q (greet_taken ops hcollecting).collecting received
  · intro e he
    exact (List.mem_append.mp he).elim (h.plain e) fun hmem => (hall e hmem).plain
  · intro after hafter
    rw [htaken.session, ← List.append_assoc]
    exact (h.waited after hafter).append spoken (.inl hready)

theorem provisioningTask_sound (connected : Bool) (received : Octets) (h : Sound m)
    (hmode : m.provisioningMode = true) :
    Sound (provisioningTask ops q connected received m) := by
  have hplain : ∀ e ∈ [Event.observed connected],
      e.answer = none ∧ ∀ connected, e ≠ .activated connected :=
    List.forall_mem_singleton.mpr ⟨rfl, nofun⟩
  rcases provisioningTask_cases ops q connected received h.initialized with
    ⟨session, hinitialized, hnot, hwait, -, heq⟩ | ⟨rfl, hready, heq⟩ | ⟨rfl, hwait, heq⟩
  · rw [heq]
    refine h.provisioned hmode ⟨rfl, rfl, rfl, hinitialized, ⟨[], Collecting.empty rfl rfl⟩, ?_,
      hplain, ?_⟩
    · exact h.rebooting.append [.observed connected] rfl (by simp) nofun
    · intro after hafter
      exact hafter.observed hwait fun hready => absurd hready hnot
  · rw [heq]
    have hstep : Provisioned m { m with log := m.log ++ [.observed true] } [.observed true] := by
      refine ⟨rfl, rfl, rfl, h.initialized, h.collecting, ?_, hplain, fun after hafter => ?_⟩
      · refine h.rebooting.append [.observed true] rfl (by simp) fun hprovisioned => ?_
        exact (h.rebooting.provisioned hprovisioned).append (List.forall_mem_singleton.mpr rfl)
      · exact hafter.observed .inl fun _ => .inl hready
    exact h.provisioned hmode (hstep.taken ops q hready received).choose_spec
  · rw [heq]
    have hstep : Provisioned m (opening m) [.observed true, .opened] := by
      refine ⟨List.append_assoc .., rfl, rfl, h.initialized, ⟨[], parserZero_collecting⟩,
        h.rebooting.append [.observed true, .opened] (List.append_assoc ..) (by simp) nofun, ?_, ?_⟩
      · intro e he
        rcases List.mem_pair.mp he with rfl | rfl <;> exact ⟨rfl, nofun⟩
      · intro after hafter
        have hopened : Waited .ready (after ++ [.observed true]) :=
          hafter.observed nofun fun _ => .inr ⟨hwait, rfl⟩
        have hmore := hopened.append [.opened] (.inl rfl)
        rw [List.append_assoc] at hmore
        exact hmore
    exact h.provisioned hmode (hstep.taken ops q rfl received).choose_spec

/-- A sample that the gate answers, before anything follows from it. -/
theorem Sound.sampled (h : Sound m) (hmode : m.provisioningMode = false) (sample : Sample) :
    let r := gateObserve m.gate sample.nowMs sample.pressed
    Sound { m with gate := r.2.2, log := m.log ++ [.sampled ⟨sample, r.1, r.2.1⟩] } := by
  intro r
  obtain ⟨hparser, hnever⟩ := h.waiting hmode
  have hnone : ∀ connected, .activated connected ∉ m.log ++ [.sampled ⟨sample, r.1, r.2.1⟩] := by
    intro connected hmem
    rcases List.mem_append.mp hmem with hmem | hmem
    · exact hnever connected hmem
    · cases List.mem_singleton.mp hmem
  refine ⟨h.initialized, h.collecting, ?_, ?_, fun _ => ⟨hparser, hnone⟩, ?_, ?_⟩
  · refine h.rebooting.append [.sampled ⟨sample, r.1, r.2.1⟩] rfl (by simp) ?_
    intro hprovisioned
    rw [hparser] at hprovisioned
    cases hprovisioned
  · obtain ⟨samples, hsamples, hanswers⟩ := h.gate
    refine ⟨samples ++ [sample], ?_, ?_⟩
    · rw [gateAfter_append, ← hsamples]
      rfl
    · rw [List.filterMap_append, hanswers, gateSamples_append, ← hsamples]
      rfl
  · intro before connected after hsplit
    exact absurd (List.mem_iff_append.mpr ⟨before, after, hsplit⟩) (hnone connected)
  · intro before after hsplit
    exact absurd (List.mem_iff_append.mpr ⟨before, after, hsplit⟩) (hnone true)

/-- The activation that a sample causes. -/
theorem Sound.activate (h : Sound m) (hmode : m.provisioningMode = false) (connected : Bool)
    {earlier : List Event} {answer : Answer} (hlog : m.log = earlier ++ [.sampled answer])
    (hactivated : answer.activated = true) :
    Sound (activateProvisioning connected m) := by
  obtain ⟨hparser, hnever⟩ := h.waiting hmode
  have hactivate : activateProvisioning connected m =
      { m with
        parser := parserZero, provisioningMode := true
        session := { m.session with state := if connected then .waitDisconnect else .waitConnect }
        log := m.log ++ [.activated connected] } := by
    simp only [activateProvisioning, sessionActivate, parserReset, h.initialized,
      Bool.true_eq_false, if_false, if_true]
  rw [hactivate]
  -- the only activation of the log is the one at its end
  have honly : ∀ {before c after}, m.log ++ [.activated connected] = before ++ .activated c :: after →
      before = m.log ∧ c = connected ∧ after = [] := by
    intro before c after hsplit
    rcases split_of_concat hsplit with ⟨after', hl⟩ | ⟨hbefore, hc, hafter⟩
    · exact absurd (hl ▸ by simp) (hnever c)
    · exact ⟨hbefore, (Event.activated.inj hc).symm, hafter⟩
  refine ⟨h.initialized, ⟨[], parserZero_collecting⟩, ?_, ?_, nofun, ?_, ?_⟩
  · exact h.rebooting.append [.activated connected] rfl (by simp) nofun
  · obtain ⟨samples, hsamples, hanswers⟩ := h.gate
    refine ⟨samples, hsamples, ?_⟩
    rw [List.filterMap_append, hanswers]
    exact List.append_nil _
  · intro before c after hsplit
    obtain ⟨hbefore, -, -⟩ := honly hsplit
    exact ⟨earlier, answer, hbefore.trans hlog, hactivated⟩
  · intro before after hsplit
    obtain ⟨-, hconnected, hafter⟩ := honly hsplit
    rw [hafter, ← hconnected]
    exact Waited.start

theorem physicalGateTask_sound (sample : Sample) (connected : Bool) (h : Sound m)
    (hmode : m.provisioningMode = false) : Sound (physicalGateTask sample connected m) := by
  have hsampled := h.sampled hmode sample
  unfold physicalGateTask
  split
  · exact h
  · rcases hobserve : gateObserve m.gate sample.nowMs sample.pressed with ⟨status, activated, gate⟩
    rw [hobserve] at hsampled
    dsimp only
    split
    · rename_i htrue
      exact hsampled.activate hmode connected rfl htrue.2
    · exact hsampled

/-- The gate task logs no line and opens no session. -/
theorem physicalGateTask_log (sample : Sample) (connected : Bool) (m : Pico σ) :
    ∃ events, (physicalGateTask sample connected m).log = m.log ++ events ∧
      ∀ e ∈ events, e.line = none ∧ e ≠ .opened := by
  unfold physicalGateTask
  split
  · exact ⟨[], (List.append_nil _).symm, nofun⟩
  · dsimp only
    split
    · unfold activateProvisioning
      dsimp only
      split
      · refine ⟨[.sampled _, .activated connected], List.append_assoc .., ?_⟩
        intro e he
        rcases List.mem_pair.mp he with rfl | rfl <;> exact ⟨rfl, nofun⟩
      · exact ⟨[.sampled _], rfl, List.forall_mem_singleton.mpr ⟨rfl, nofun⟩⟩
    · exact ⟨[.sampled _], rfl, List.forall_mem_singleton.mpr ⟨rfl, nofun⟩⟩

/-- A turn of the main loop: the gate task, then the provisioning task. -/
theorem mainTurn_cases (h : Sound m) (poll : Poll) :
    ∃ m₁ events, Sound m₁ ∧ m₁.log = m.log ++ events ∧ (∀ e ∈ events, e.line = none ∧ e ≠ .opened) ∧
      mainTurn ops q m poll = if m₁.provisioningMode then
        provisioningTask ops q poll.connected poll.received m₁ else m₁ := by
  unfold mainTurn
  by_cases hmode : m.provisioningMode = true
  · rw [if_pos hmode]
    exact ⟨m, [], h, (List.append_nil _).symm, nofun, rfl⟩
  · rw [if_neg hmode]
    obtain ⟨events, hlog, hevents⟩ := physicalGateTask_log poll.sample poll.connectedThen m
    exact ⟨_, events, physicalGateTask_sound poll.sample poll.connectedThen h
      (Bool.of_not_eq_true hmode), hlog, hevents, rfl⟩

theorem mainTurn_sound (h : Sound m) (poll : Poll) : Sound (mainTurn ops q m poll) := by
  obtain ⟨m₁, -, hgate, -, -, heq⟩ := mainTurn_cases ops q h poll
  rw [heq]
  split
  · rename_i hmode
    exact provisioningTask_sound ops q poll.connected poll.received hgate hmode
  · exact hgate

theorem picoRun_sound (polls : List Poll) (h : Sound m) :
    Sound (picoRun ops q polls m) := by
  induction polls generalizing m with
  | nil => exact h
  | cons poll polls ih => exact ih (mainTurn_sound ops q h poll)

/-! ### The lines of a session -/

/-- The session is open: the mode is on and the host was seen to connect. -/
structure Open (m : Pico σ) : Prop where
  mode : m.provisioningMode = true
  initialized : m.session.initialized = true
  ready : m.session.state = .ready

/-- A poll of an open session with the host connected. -/
theorem mainTurn_open (h : Open m) (hcollecting : Collecting pending m.parser)
    (hconnected : poll.connected = true) :
    Open (mainTurn ops q m poll) ∧
      Collecting (linesFrom pending poll.received).2 (mainTurn ops q m poll).parser ∧
      ∃ events, (mainTurn ops q m poll).log = m.log ++ events ∧
        events.filterMap Event.line = (linesFrom pending poll.received).1.map readLine := by
  have hturn : mainTurn ops q m poll = poll.received.foldl (takeOctet ops q)
      (greet ops { m with log := m.log ++ [.observed true] }) := by
    unfold mainTurn
    rw [if_pos h.mode, hconnected]
    dsimp only
    rw [if_pos h.mode]
    rcases provisioningTask_cases ops q true poll.received h.initialized with
      ⟨session, -, -, -, hnot, -⟩ | ⟨-, -, heq⟩ | ⟨-, hwait, -⟩
    · exact absurd h.ready (hnot rfl).1
    · exact heq
    · rw [h.ready] at hwait
      cases hwait
  have htaken := session_taken ops q (m := { m with log := m.log ++ [.observed true] })
    hcollecting poll.received
  rw [hturn]
  obtain ⟨events, hlog, -, hlines⟩ := htaken.log
  refine ⟨⟨htaken.mode.trans h.mode, ?_, ?_⟩, htaken.collecting,
    .observed true :: events, ?_, ?_⟩
  · rw [htaken.session]
    exact h.initialized
  · rw [htaken.session]
    exact h.ready
  · rw [hlog, List.append_assoc]
    rfl
  · exact hlines

/-- The polls of an open session: the lines are those of all the octets together. -/
theorem picoRun_open (h : Open m) (hcollecting : Collecting pending m.parser) {polls : List Poll}
    (hconnected : ∀ poll ∈ polls, poll.connected = true) :
    ∃ events, (picoRun ops q polls m).log = m.log ++ events ∧
      events.filterMap Event.line =
        (linesFrom pending (polls.flatMap Poll.received)).1.map readLine := by
  induction polls generalizing m pending with
  | nil => exact ⟨[], (List.append_nil _).symm, rfl⟩
  | cons poll polls ih =>
    obtain ⟨hopen, hcollected, events, hlog, hlines⟩ :=
      mainTurn_open ops q h hcollecting (hconnected poll (List.mem_cons_self ..))
    obtain ⟨events', hlog', hlines'⟩ := ih hopen hcollected
      fun p hp => hconnected p (List.mem_cons_of_mem poll hp)
    refine ⟨events ++ events', ?_, ?_⟩
    · rw [← List.append_assoc, ← hlog]
      exact hlog'
    · rw [List.filterMap_append, hlines, hlines', List.flatMap_cons, linesFrom_append,
        List.map_append]

/-- The poll opens a session: the machine logs it. -/
def Opens (m : Pico σ) (poll : Poll) : Prop :=
  ∃ events, (mainTurn ops q m poll).log = m.log ++ events ∧ Event.opened ∈ events

/-- The provisioning task when it opens a session: the octets are taken from the beginning of a
line. -/
theorem provisioningTask_opens (hsound : Sound m) (hmode : m.provisioningMode = true)
    (connected : Bool) (received : Octets) :
    ∃ events, (provisioningTask ops q connected received m).log = m.log ++ events ∧
      (Event.opened ∈ events →
        Open (provisioningTask ops q connected received m) ∧
        Collecting (linesFrom [] received).2 (provisioningTask ops q connected received m).parser ∧
        events.filterMap Event.line = (linesFrom [] received).1.map readLine) := by
  rcases provisioningTask_cases ops q connected received hsound.initialized with
    ⟨session, -, -, -, -, heq⟩ | ⟨-, -, heq⟩ | ⟨-, -, heq⟩
  · rw [heq]
    refine ⟨[.observed connected], rfl, fun hopened => ?_⟩
    cases List.mem_singleton.mp hopened
  · -- a session that is ready already logs no opening
    obtain ⟨pending, hcollecting⟩ := hsound.collecting
    obtain ⟨spoken, hspoken, hall, -⟩ := (session_taken ops q
      (m := { m with log := m.log ++ [.observed true] }) hcollecting received).log
    rw [heq]
    refine ⟨[.observed true] ++ spoken, by rw [hspoken, List.append_assoc], fun hopened => ?_⟩
    rcases List.mem_append.mp hopened with hmem | hmem
    · cases List.mem_singleton.mp hmem
    · exact (hall _ hmem).elim
  · have htaken := session_taken ops q (m := opening m) parserZero_collecting received
    obtain ⟨spoken, hspoken, -, hlines⟩ := htaken.log
    rw [heq]
    refine ⟨[.observed true] ++ ([.opened] ++ spoken), ?_, fun _ => ?_⟩
    · rw [hspoken, opening, List.append_assoc, List.append_assoc]
    · refine ⟨⟨htaken.mode.trans hmode, ?_, ?_⟩, htaken.collecting, hlines⟩
      · rw [htaken.session]
        exact hsound.initialized
      · rw [htaken.session, opening]

theorem mainTurn_opens (hsound : Sound m) (h : Opens ops q m poll) :
    Open (mainTurn ops q m poll) ∧
      Collecting (linesFrom [] poll.received).2 (mainTurn ops q m poll).parser ∧
      ∃ events, (mainTurn ops q m poll).log = m.log ++ events ∧
        events.filterMap Event.line = (linesFrom [] poll.received).1.map readLine := by
  obtain ⟨events, hlog, hopened⟩ := h
  -- what the gate task logs before is no line
  obtain ⟨m₁, gateEvents, hgateSound, hgateLog, hgateNone, heq⟩ := mainTurn_cases ops q hsound poll
  rw [heq] at hlog ⊢
  by_cases hmode : m₁.provisioningMode = true
  · rw [if_pos hmode] at hlog ⊢
    obtain ⟨own, hown, hopens⟩ :=
      provisioningTask_opens ops q hgateSound hmode poll.connected poll.received
    have hsplit : events = gateEvents ++ own := by
      rw [hown, hgateLog, List.append_assoc] at hlog
      exact (List.append_cancel_left hlog).symm
    have hmem : Event.opened ∈ own := by
      rw [hsplit] at hopened
      exact (List.mem_append.mp hopened).resolve_left fun hgate => (hgateNone _ hgate).2 rfl
    obtain ⟨hopen, hcollecting, hlines⟩ := hopens hmem
    refine ⟨hopen, hcollecting, events, hlog, ?_⟩
    have hnone : gateEvents.filterMap Event.line = [] :=
      List.filterMap_eq_nil_iff.mpr fun e he => (hgateNone e he).1
    rw [hsplit, List.filterMap_append, hnone]
    exact hlines
  · rw [if_neg hmode, hgateLog] at hlog
    rw [← List.append_cancel_left hlog] at hopened
    exact absurd rfl (hgateNone _ hopened).2

/-- The lines of a session, from the poll that opens it on: what stands between the newlines of
the octets received, however they are spread over the polls. -/
theorem session_lines (hsound : Sound m) (hopens : Opens ops q m poll) {polls : List Poll}
    (hconnected : ∀ p ∈ polls, p.connected = true) :
    ∃ events, (picoRun ops q (poll :: polls) m).log = m.log ++ events ∧
      events.filterMap Event.line =
        ((((poll :: polls).flatMap Poll.received).splitOn newline).dropLast).map readLine := by
  obtain ⟨hopen, hcollecting, events, hlog, hlines⟩ := mainTurn_opens ops q hsound hopens
  obtain ⟨events', hlog', hlines'⟩ := picoRun_open ops q hopen hcollecting hconnected
  refine ⟨events ++ events', ?_, ?_⟩
  · rw [← List.append_assoc, ← hlog]
    exact hlog'
  · have hall := linesFrom_append [] poll.received (polls.flatMap Poll.received)
    have hsplit := linesFrom_eq_splitOn [] ((poll :: polls).flatMap Poll.received)
    have hhead : ∀ l : List Octets, l.modifyHead ([] ++ ·) = l := by
      intro l
      cases l <;> rfl
    rw [hhead] at hsplit
    rw [List.filterMap_append, hlines, hlines', ← hsplit, List.flatMap_cons, hall, List.map_append]

/-- Provisioning over every run.  The samples, the observations and the octets may be anything. -/
theorem provisioning (world : σ) (polls : List Poll) :
    let m := picoRun ops q polls (picoStart world)
    -- the gate, for any samples at all and for those of the run
    (∀ samples, HeldLongEnough (gateSamples gateInit samples)) ∧
      HeldLongEnough (m.log.filterMap Event.answer) ∧
      (∀ before connected after, m.log = before ++ .activated connected :: after →
        ∃ earlier answer, before = earlier ++ [.sampled answer] ∧ answer.activated = true) ∧
      -- no line is processed before a fresh connection
      (∀ before between event after,
        m.log = before ++ .activated true :: (between ++ event :: after) →
        event.line.isSome = true →
        [Event.observed false, Event.observed true].Sublist between) ∧
      -- the lines of a session come from its octets alone
      (∀ poll session, Opens ops q m poll → (∀ p ∈ session, p.connected = true) →
        ∃ events, (picoRun ops q (poll :: session) m).log = m.log ++ events ∧
          events.filterMap Event.line =
            ((((poll :: session).flatMap Poll.received).splitOn newline).dropLast).map readLine) ∧
      -- a reboot is earned
      ∀ before after, m.log = before ++ .reboot :: after → Earned before := by
  intro m
  have hsound : Sound m := picoRun_sound ops q polls (picoStart_sound world)
  refine ⟨gateSamples_held, ?_, hsound.triggered, ?_, ?_, hsound.rebooting.reboots⟩
  · obtain ⟨samples, -, hanswers⟩ := hsound.gate
    rw [hanswers]
    exact gateSamples_held samples
  · intro before between event after hsplit hline
    exact (hsound.waited before _ hsplit).quiet between event after rfl hline
  · intro poll session hopens hconnected
    exact session_lines ops q hsound hopens hconnected

end Polls

end Pbns.Provision
