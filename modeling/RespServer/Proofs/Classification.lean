import RespServer.Proofs.Delivery

/-!
Contract: a failure is answered by one frame, however it comes about.

Owns:
- `wrapped`, a failure inside marks of deferred work, and what of it shows in the reply;
- `Wording`, the error code and the text of the reply to a failure that is not wrapped;
- `carryOut`, the turn of a command with any result in the place of its own;
- `AnsweredAlike`, that on every path to an answer a failure is answered by one frame, the connection
  stays open, and what waits is answered next.

Does not own: failures of broken connections, which are answered by nothing (`Session.fail`).

Few commands fail in all the ways that there are. So what a turn makes of a result is said of any
result, and the result of the command itself is one of them.
-/

namespace RespServer

/-! ## Texts -/

namespace Failure

theorem containsChars_iff {part chars : List Char} :
    containsChars part chars = true ↔ part <:+: chars := by
  induction chars with
  | nil => rw [containsChars, List.isEmpty_iff, List.infix_nil]
  | cons char rest inductionHypothesis =>
      rw [containsChars, Bool.or_eq_true, List.isPrefixOf_iff_prefix, inductionHypothesis,
        List.infix_cons_iff]

/-- A failure inside so many marks of deferred work. -/
def wrapped (cause : Failure) : Nat → Failure
  | 0 => cause
  | count + 1 => .execution (cause.wrapped count)

theorem initial_wrapped (cause : Failure) (count : Nat) :
    (cause.wrapped count).initial = cause.initial := by
  induction count with
  | zero => rfl
  | succ count inductionHypothesis => exact inductionHypothesis

/-- The reply to a failure is that to what started it. -/
theorem reply_initial (cause : Failure) : cause.initial.reply = cause.reply := by
  rw [reply, initial_initial, reply]

theorem reply_wrapped (cause : Failure) (count : Nat) :
    (cause.wrapped count).reply = cause.reply := by
  rw [← reply_initial, initial_wrapped, reply_initial]

theorem isIo_wrapped {cause : Failure} (whole : cause.isIo = false) (count : Nat) :
    (cause.wrapped count).isIo = false := by
  cases count with
  | zero => exact whole
  | succ count => rfl

/-- What the text of a reply says about a failure that is not wrapped. -/
structure Wording (cause : Failure) (text : String) : Prop where
  wrongType : "WRONGTYPE ".toList <+: text.toList ↔ ∃ message, cause = .wrongType message
  other : "ERR ".toList <+: text.toList ↔ ¬∃ message, cause = .wrongType message
  departed : ∀ message, cause = .memberDeparted message →
    "memberDeparted".toList <:+: text.toList ∧
      (text = "ERR " ++ message ↔ "memberDeparted".toList <:+: message.toList) ∧
      (text = "ERR " ++ ("memberDeparted: " ++ message) ↔
        ¬"memberDeparted".toList <:+: message.toList)
  /-- The text tells nothing about the failure. -/
  hidden : (∃ message, cause = .internal message) ∨ (∃ message, cause = .io message) →
    text = "ERR The server had an internal error please try again"

/-- A text behind the common error code has no other code. -/
theorem codes_of_failure (message : String) :
    "ERR ".toList <+: ("ERR " ++ message).toList ∧
      ¬"WRONGTYPE ".toList <+: ("ERR " ++ message).toList := by
  rw [String.toList_append]
  exact ⟨List.prefix_append _ _, fun shared => by simp at shared⟩

theorem codes_of_wrongType (message : String) :
    "WRONGTYPE ".toList <+: ("WRONGTYPE " ++ message).toList ∧
      ¬"ERR ".toList <+: ("WRONGTYPE " ++ message).toList := by
  rw [String.toList_append]
  exact ⟨List.prefix_append _ _, fun shared => by simp at shared⟩

theorem wording_of_failure {cause : Failure} (message : String)
    (other : ∀ message, cause ≠ .wrongType message)
    (attached : ∀ message, cause ≠ .memberDeparted message)
    (hidden : (∃ message, cause = .internal message) ∨ (∃ message, cause = .io message) →
      message = "The server had an internal error please try again") :
    cause.Wording ("ERR " ++ message) where
  wrongType := iff_of_false (codes_of_failure message).2 (not_exists.mpr other)
  other := iff_of_true (codes_of_failure message).1 (not_exists.mpr other)
  departed departed same := absurd same (attached departed)
  hidden hides := by rw [hidden hides]; rfl

/-- The mark is put in front of a message that does not contain it. -/
theorem wording_of_departed (message : String) :
    (memberDeparted message).Wording
      (if containsChars departedMark.toList message.toList then "ERR " ++ message
        else "ERR " ++ (departedMark ++ ": " ++ message)) := by
  have longer : "ERR " ++ message ≠ "ERR " ++ ("memberDeparted: " ++ message) := by
    intro same
    have lengths := congrArg String.length same
    simp only [String.length_append] at lengths
    have short : "memberDeparted: ".length = 16 := rfl
    omega
  have joined : departedMark ++ ": " = "memberDeparted: " := rfl
  have other : ∀ text, memberDeparted message ≠ .wrongType text := nofun
  rw [joined]
  split <;> rename_i contains <;> rw [containsChars_iff] at contains
  · refine ⟨?_, ?_, fun departed same => ?_, nofun⟩
    · exact iff_of_false (codes_of_failure _).2 (not_exists.mpr other)
    · exact iff_of_true (codes_of_failure _).1 (not_exists.mpr other)
    · cases same
      refine ⟨?_, iff_of_true rfl contains, iff_of_false longer (not_not_intro contains)⟩
      rw [String.toList_append]
      exact contains.trans (List.suffix_append _ _).isInfix
  · refine ⟨?_, ?_, fun departed same => ?_, nofun⟩
    · exact iff_of_false (codes_of_failure _).2 (not_exists.mpr other)
    · exact iff_of_true (codes_of_failure _).1 (not_exists.mpr other)
    · cases same
      refine ⟨?_, iff_of_false longer.symm contains, iff_of_true rfl contains⟩
      refine ⟨"ERR ".toList, ": ".toList ++ message.toList, ?_⟩
      rw [String.toList_append, String.toList_append]
      rfl

theorem initial_ne_execution (cause inner : Failure) : cause.initial ≠ .execution inner := by
  induction cause with
  | execution cause inductionHypothesis => exact inductionHypothesis
  | _ => exact nofun

/-- The reply to a failure is an error whose code and text are those of what started it. -/
theorem exists_wording (cause : Failure) :
    ∃ text, cause.reply = .error text ∧ cause.initial.Wording text := by
  unfold reply
  cases started : cause.initial with
  | invalidArgument message | arithmetic message | invalidState message
  | parameterMismatch message => exact ⟨_, rfl, wording_of_failure message nofun nofun nofun⟩
  | wrongType message =>
      refine ⟨_, rfl, iff_of_true (codes_of_wrongType message).1 ⟨message, rfl⟩, ?_, nofun, nofun⟩
      exact iff_of_false (codes_of_wrongType message).2 fun other => other ⟨message, rfl⟩
  | command | protocol | shuttingDown => exact ⟨_, rfl, wording_of_failure _ nofun nofun nofun⟩
  | memberDeparted message =>
      refine ⟨_, ?_, wording_of_departed message⟩
      dsimp only
      split <;> rfl
  | io | internal => exact ⟨_, rfl, wording_of_failure _ nofun nofun fun _ => rfl⟩
  | execution inner => exact absurd started (initial_ne_execution cause inner)

end Failure

/-! ## Turns with any result -/

namespace Session

/-- What a command that is carried out with a result makes of a session. -/
def performWith (session : Session) (command : Command) (result : Outcome × Scene) :
    Outcome × Session :=
  let services :=
    match result.1 with
    | .deferred work => result.2.services.submit ⟨session.connection.index, command.id, work⟩
    | _ => result.2.services
  (result.1, ⟨services, { session.connection with authenticated := result.2.authenticated }⟩)

/-- A command is performed with its own result. -/
theorem perform_eq_performWith (session : Session) (command : Command) :
    session.perform command = session.performWith command
      (command.execute ⟨session.services, session.connection.authenticated⟩) :=
  rfl

/-- The turn of a command that no gate rejects, if carrying it out has this result. -/
def takeUpWith (session : Session) (command : Command) (rest : List Waiting)
    (result : Outcome × Scene) : Begun :=
  if command.kind.isDeferred then
    let (outcome, next) := (session.withHead command rest).performWith command result
    match outcome with
    | .deferred _ => .inFlight next
    | .reply frame => .answered (((next.withQueue rest).write frame).endCommand command.kind)
    | .failed cause => .answered (((next.withQueue rest).fail cause).endCommand command.kind)
    | .aborted reason => .aborted next reason
  else
    let (outcome, next) :=
      ((session.withQueue rest).startCommand command.kind).performWith command result
    match (next.endCommand command.kind).conclude command.kind outcome with
    | (last, none) => .answered last
    | (last, some reason) => .aborted last reason

/-- The session after such a turn and what it lets be answered behind it. -/
def carryOut (session : Session) (command : Command) (rest : List Waiting)
    (result : Outcome × Scene) : Progress :=
  match session.takeUpWith command rest result with
  | .inFlight next => (next, none)
  | .answered next => if next.connection.isOpen then drain rest next else (next, none)
  | .aborted next reason => (next, some reason)

/-- What a command finds when its turn has come. -/
def sceneFor (session : Session) (kind : CommandKind) : Scene :=
  ⟨session.services.startCommand kind, session.connection.authenticated⟩

section Turns

variable {session : Session} {command : Command}

theorem takeUp_of_admitted (admitted : session.gate? command.kind = none) (rest : List Waiting) :
    session.takeUp (.command command) rest =
      session.takeUpWith command rest (command.execute (session.sceneFor command.kind)) := by
  rw [takeUp, takeUpWith]
  split
  · rw [begin, admitted]
    dsimp only
    rw [perform_eq_performWith]
    rfl
  · have sameGate : (session.withQueue rest).gate? command.kind = none := admitted
    rw [answer_eq, sameGate]
    rfl

/-- The turn of a command is one with its own result. -/
theorem drain_of_admitted (isOpen : session.connection.isOpen = true)
    (admitted : session.gate? command.kind = none) (rest : List Waiting) :
    drain (.command command :: rest) session =
      session.carryOut command rest (command.execute (session.sceneFor command.kind)) := by
  rw [drain_cons isOpen, takeUp_of_admitted admitted]
  rfl

theorem receive_of_admitted (isOpen : session.connection.isOpen = true)
    (idle : session.connection.queue = []) (admitted : session.gate? command.kind = none) :
    session.receive command = session.countCommand.carryOut (session.numbered command) []
      (command.execute (session.sceneFor command.kind)) := by
  have counted : session.countCommand.connection.isOpen = true := isOpen
  have sameGate : session.countCommand.gate? (session.numbered command).kind = none := admitted
  rw [receive_idle isOpen idle, drain_of_admitted counted sameGate]
  rfl

end Turns

/-! ## Answers -/

/-- A frame has been written, if anyone listens, and nothing else; the connection is still open, and
the rest of the queue waits. -/
structure Replied (before : Session) (frame : Frame) (rest : List Waiting) (after : Session) :
    Prop where
  written : after.connection.written =
    before.connection.written ++ if before.connection.listening then [frame] else []
  isOpen : after.connection.isOpen = true
  queue : after.connection.queue = rest

/-- A frame is the reply, and the rest of the queue is answered next. -/
def AnswersWith (session : Session) (frame : Frame) (rest : List Waiting)
    (progress : Progress) : Prop :=
  ∃ next, session.Replied frame rest next ∧ progress = drain rest next

/-- On every path to an answer a failure is answered by a frame. -/
structure AnsweredAlike (failure : Failure) (frame : Frame) : Prop where
  /-- A command fails that is carried out as it arrives, at once or before it is deferred. -/
  inline : ∀ (session : Session) (command : Command) (after : Scene),
    session.connection.isOpen = true → session.connection.queue = [] →
      session.AnswersWith frame []
        (session.countCommand.carryOut (session.numbered command) [] (.failed failure, after))
  /-- A command fails that waited in the queue. -/
  drained : ∀ (session : Session) (command : Command) (rest : List Waiting) (after : Scene),
    session.connection.isOpen = true →
      session.AnswersWith frame rest (session.carryOut command rest (.failed failure, after))
  /-- Deferred work fails, which is reported with one more mark. -/
  worked : ∀ (session : Session) (command : Command) (rest : List Waiting),
    session.connection.isOpen = true → session.connection.queue = .command command :: rest →
      ∃ completion, (WorkResult.failed failure).report = some completion ∧
        session.AnswersWith frame rest (session.complete command.id completion)
  /-- A completion is reported that is the failure itself. -/
  completed : ∀ (session : Session) (command : Command) (rest : List Waiting),
    session.connection.isOpen = true → session.connection.queue = .command command :: rest →
      session.AnswersWith frame rest (session.complete command.id (.error failure))
  /-- The failure is reported while nothing waits. -/
  reported : ∀ session : Session,
    session.connection.isOpen = true → session.connection.queue = [] →
      session.AnswersWith frame [] (session.report failure, none)
  /-- The failure is reported while something waits; its reply takes its place in the queue. -/
  queued : ∀ session : Session,
    session.connection.isOpen = true → session.connection.queue ≠ [] →
      session.report failure = session.enqueue (.reply frame)
  inTurn : ∀ (session : Session) (rest : List Waiting), session.connection.isOpen = true →
    session.AnswersWith frame rest (drain (.reply frame :: rest) session)

section Answers

variable {before session : Session} {frame : Frame} {rest : List Waiting}

theorem replied_write (written : session.connection.written = before.connection.written)
    (listening : session.connection.listening = before.connection.listening)
    (isOpen : session.connection.isOpen = true) (queue : session.connection.queue = rest) :
    before.Replied frame rest (session.write frame) := by
  constructor
  · rw [(advances_write isOpen frame).written, written, listening]
  · rw [isOpen_write, isOpen]
  · rw [queue_write, queue]

theorem Replied.endCommand {after : Session} (replied : before.Replied frame rest after)
    (kind : CommandKind) : before.Replied frame rest (after.endCommand kind) :=
  ⟨replied.written, replied.isOpen, replied.queue⟩

theorem fail_of_whole {failure : Failure} (whole : failure.isIo = false) (session : Session) :
    session.fail failure = session.write failure.reply := by
  rw [fail, if_neg (Bool.eq_false_iff.mp whole)]

variable {failure : Failure} (whole : failure.isIo = false)
include whole

theorem takeUpWith_of_failed (isOpen : session.connection.isOpen = true) (command : Command)
    (rest : List Waiting) (after : Scene) :
    ∃ next, session.takeUpWith command rest (.failed failure, after) = .answered next ∧
      session.Replied failure.reply rest next := by
  rw [takeUpWith]
  split
  · refine ⟨_, rfl, ?_⟩
    rw [fail_of_whole whole]
    apply Replied.endCommand
    exact replied_write rfl rfl isOpen rfl
  · refine ⟨_, rfl, ?_⟩
    rw [fail_of_whole whole]
    exact replied_write rfl rfl isOpen rfl

theorem answersWith_carryOut (isOpen : session.connection.isOpen = true) (command : Command)
    (rest : List Waiting) (after : Scene) :
    session.AnswersWith failure.reply rest
      (session.carryOut command rest (.failed failure, after)) := by
  obtain ⟨next, taken, replied⟩ := takeUpWith_of_failed whole isOpen command rest after
  refine ⟨next, replied, ?_⟩
  rw [carryOut, taken]
  exact if_pos replied.isOpen

theorem answersWith_complete (isOpen : session.connection.isOpen = true) {command : Command}
    (head : session.connection.queue = .command command :: rest) :
    session.AnswersWith failure.reply rest (session.complete command.id (.error failure)) := by
  have taken : takeHead? command.id session.connection.queue = some (command, rest) := by
    rw [head]
    exact if_pos rfl
  have reply : completionReply? (.error failure) = some failure.reply :=
    if_neg (Bool.eq_false_iff.mp whole)
  obtain ⟨advances, stillOpen⟩ := settleHead_of_reply isOpen command rest reply
  refine ⟨_, ⟨advances.written, stillOpen, queue_settleHead_of_reply session command rest reply⟩,
    ?_⟩
  rw [complete_inTurn isOpen taken]
  exact if_pos stillOpen

theorem answersWith_report (isOpen : session.connection.isOpen = true)
    (idle : session.connection.queue = []) :
    session.AnswersWith failure.reply [] (session.report failure, none) := by
  have replied : session.Replied failure.reply [] (session.write failure.reply) :=
    replied_write rfl rfl isOpen idle
  have unqueued : (session.write failure.reply).withQueue [] = session.write failure.reply := by
    rw [withQueue, ← replied.queue]
  refine ⟨_, replied, ?_⟩
  rw [report, if_neg (Bool.eq_false_iff.mp whole), if_pos idle, drain, unqueued]

theorem answeredAlike : AnsweredAlike failure failure.reply where
  inline session command after isOpen _ := by
    have counted : session.countCommand.connection.isOpen = true := isOpen
    obtain ⟨next, replied, same⟩ :=
      answersWith_carryOut whole counted (session.numbered command) [] after
    exact ⟨next, ⟨replied.written, replied.isOpen, replied.queue⟩, same⟩
  drained _ command rest after isOpen := answersWith_carryOut whole isOpen command rest after
  worked _ _ _ isOpen head := by
    have marked : (Failure.execution failure).isIo = false := rfl
    exact ⟨_, rfl, answersWith_complete marked isOpen head⟩
  completed _ _ _ isOpen head := answersWith_complete whole isOpen head
  reported _ isOpen idle := answersWith_report whole isOpen idle
  queued _ _ busy := by
    rw [report, if_neg (Bool.eq_false_iff.mp whole), if_neg busy]
  inTurn session rest isOpen := by
    refine ⟨(session.withQueue rest).write failure.reply, replied_write rfl rfl isOpen rfl, ?_⟩
    rw [drain]

end Answers

/-- A failure that is not that of a broken connection, however often it is marked as one of deferred
work, is answered alike on all paths: by an error with the code and the text of what started it. The
turn of a command, as it arrives or out of the queue, is one with the result of carrying it out. -/
theorem failures_answered_alike {cause : Failure} (whole : cause.isIo = false) (marks : Nat) :
    (∃ text, (cause.wrapped marks).reply = .error text ∧ cause.initial.Wording text ∧
        cause.initial.reply = .error text ∧
        AnsweredAlike (cause.wrapped marks) (.error text)) ∧
      ∀ (session : Session) (command : Command), session.connection.isOpen = true →
        session.gate? command.kind = none →
          (session.connection.queue = [] →
            session.receive command = session.countCommand.carryOut (session.numbered command) []
              (command.execute (session.sceneFor command.kind))) ∧
          ∀ rest, drain (.command command :: rest) session =
            session.carryOut command rest (command.execute (session.sceneFor command.kind)) := by
  refine ⟨?_, fun session command isOpen admitted =>
    ⟨fun idle => receive_of_admitted isOpen idle admitted, drain_of_admitted isOpen admitted⟩⟩
  obtain ⟨text, reply, wording⟩ := Failure.exists_wording cause
  have marked := Failure.reply_wrapped cause marks
  have alike := answeredAlike (Failure.isIo_wrapped whole marks)
  rw [marked, reply] at alike
  exact ⟨text, marked.trans reply, wording, (Failure.reply_initial cause).trans reply, alike⟩

/-- A departed member is marked once, however often the failure is; a broken connection that only
deferred work has seen is answered, and by nothing of its text. -/
theorem departed_member_marked_once :
    let departed := Failure.memberDeparted "node 3 left"
    let broken := Failure.execution (.io "no route to host")
    (departed.isIo = false ∧
        AnsweredAlike (departed.wrapped 2) (.error "ERR memberDeparted: node 3 left")) ∧
      broken.isIo = false ∧
        AnsweredAlike (broken.wrapped 1)
          (.error "ERR The server had an internal error please try again") := by
  intro departed broken
  have left : departed.isIo = false := rfl
  have within : broken.isIo = false := rfl
  obtain ⟨⟨text, reply, -, -, alike⟩, -⟩ := failures_answered_alike left 2
  obtain ⟨⟨other, replied, -, -, likewise⟩, -⟩ := failures_answered_alike within 1
  have marked : (departed.wrapped 2).reply = .error "ERR memberDeparted: node 3 left" := by
    decide +kernel
  have plain : (broken.wrapped 1).reply =
      .error "ERR The server had an internal error please try again" := by decide +kernel
  rw [reply] at marked
  rw [replied] at plain
  cases marked
  cases plain
  exact ⟨⟨left, alike⟩, within, likewise⟩

end Session

end RespServer
