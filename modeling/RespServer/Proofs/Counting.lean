import Mathlib
import RespServer.Proofs.Census
import RespServer.Proofs.Ordering

/-!
Contract: what the counters of the server make of what a connection is told.

Owns:
- `Statistics.Counts`, what the counters make of commands that begin and end;
- `Session.Ledger`, what a turn, a drained queue and an input add to the counters, and what they
  leave in flight.

Does not own: the counters of clients (`Proofs.Census`), and runs (`Proofs.Balance`).

Every command that is carried out begins once. It ends at once, or stands at the head of its queue
and ends with its completion or with its connection.
-/

namespace RespServer

/-! ## Counters -/

namespace Statistics

/-- Between two states of the counters, commands of some kinds have begun and commands of some
kinds have ended. The counters are words, so sums are compared instead of differences. -/
structure Counts (before after : Statistics) (begun ended : List CommandKind) : Prop where
  commands : after.commands = before.commands + .ofNat ended.length
  calls : ∀ kind,
    (after.tally kind).calls = (before.tally kind).calls + .ofNat (ended.count kind)
  inProgress : ∀ kind,
    (after.tally kind).inProgress + .ofNat (ended.count kind) =
      (before.tally kind).inProgress + .ofNat (begun.count kind)

theorem counts_same (statistics : Statistics) : statistics.Counts statistics [] [] :=
  ⟨by simp, by simp, by simp⟩

theorem Counts.trans {first second third : Statistics}
    {begun ended begunLater endedLater : List CommandKind}
    (earlier : first.Counts second begun ended)
    (later : second.Counts third begunLater endedLater) :
    first.Counts third (begun ++ begunLater) (ended ++ endedLater) where
  commands := by
    rw [later.commands, earlier.commands, List.length_append, UInt64.ofNat_add, UInt64.add_assoc]
  calls kind := by
    rw [later.calls, earlier.calls, List.count_append, UInt64.ofNat_add, UInt64.add_assoc]
  inProgress kind := by
    have before := earlier.inProgress kind
    have after := later.inProgress kind
    rw [List.count_append, List.count_append, UInt64.ofNat_add, UInt64.ofNat_add]
    grind

theorem counts_startCommand (statistics : Statistics) (kind : CommandKind) :
    statistics.Counts (statistics.startCommand kind) [kind] [] := by
  refine ⟨by simp [startCommand, modify], fun other => ?_, fun other => ?_⟩
  all_goals
    unfold startCommand
    by_cases same : kind = other
    · subst same
      simp
    · simp [tally_modify_of_ne _ same, same]

theorem tally_endCommand (statistics : Statistics) (kind other : CommandKind) :
    (statistics.endCommand kind).tally other =
      (statistics.modify kind fun tally => ⟨tally.calls + 1, tally.inProgress - 1⟩).tally other :=
  rfl

theorem counts_endCommand (statistics : Statistics) (kind : CommandKind) :
    statistics.Counts (statistics.endCommand kind) [] [kind] := by
  refine ⟨rfl, fun other => ?_, fun other => ?_⟩
  all_goals
    rw [tally_endCommand]
    by_cases same : kind = other
    · subst same
      simp
    · simp [tally_modify_of_ne _ same, same]

theorem counts_endEach (kinds : List CommandKind) (statistics : Statistics) :
    statistics.Counts (kinds.foldl endCommand statistics) [] kinds := by
  induction kinds generalizing statistics with
  | nil => exact statistics.counts_same
  | cons kind rest inductionHypothesis =>
      exact (statistics.counts_endCommand kind).trans (inductionHypothesis _)

theorem counts_removeClient (statistics : Statistics) :
    statistics.Counts statistics.removeClient [] [] :=
  ⟨by simp [removeClient], fun kind => by simp [removeClient, tally],
    fun kind => by simp [removeClient, tally]⟩

theorem counts_addClient (statistics : Statistics) :
    statistics.Counts statistics.addClient [] [] :=
  ⟨by simp [addClient], fun kind => by simp [addClient, tally],
    fun kind => by simp [addClient, tally]⟩

theorem tally_zero (kind : CommandKind) : zero.tally kind = ⟨0, 0⟩ := by
  simp [zero, tally]

end Statistics

/-- Every kind is counted once among all kinds. -/
theorem CommandKind.sum_count_all (kinds : List CommandKind) :
    (all.map fun kind => kinds.count kind).sum = kinds.length := by
  induction kinds with
  | nil => simp
  | cons first rest inductionHypothesis =>
      have once : (all.map fun kind => if first == kind then 1 else 0).sum = 1 := by
        cases first <;> rfl
      simp only [List.count_cons]
      rw [List.sum_map_add, inductionHypothesis, once, List.length_cons]

/-! ## Queues -/

namespace Waiting

/-- The kinds of the commands in a queue whose time is running. -/
def running (queue : List Waiting) : List CommandKind :=
  queue.filterMap startedKind?

def isFresh (waiting : Waiting) : Bool :=
  waiting.startedKind?.isNone

/-- Behind the head of a queue nothing has been taken up. -/
def Headed (queue : List Waiting) : Prop :=
  running queue.tail = []

theorem running_append (front back : List Waiting) :
    running (front ++ back) = running front ++ running back :=
  List.filterMap_append

theorem running_cons (head : Waiting) (rest : List Waiting) :
    running (head :: rest) = head.startedKind?.toList ++ running rest := by
  unfold running
  rw [List.filterMap_cons]
  cases head.startedKind? <;> rfl

theorem running_eq_nil_iff {queue : List Waiting} :
    running queue = [] ↔ ∀ waiting ∈ queue, waiting.startedKind? = none :=
  List.filterMap_eq_nil_iff

theorem headed_of_fresh {queue : List Waiting} (fresh : running queue = []) : Headed queue :=
  running_eq_nil_iff.mpr fun waiting member =>
    running_eq_nil_iff.mp fresh waiting (List.mem_of_mem_tail member)

theorem filter_isFresh {queue : List Waiting} (fresh : running queue = []) :
    queue.filter isFresh = queue := by
  refine List.filter_eq_self.mpr fun waiting member => ?_
  rw [isFresh, running_eq_nil_iff.mp fresh waiting member]
  rfl

theorem startedKind?_command (command : Command) (fresh : command.started = false) :
    (Waiting.command command).startedKind? = none := by
  simp [startedKind?, fresh]

theorem asArrived_of_fresh {arrival : Waiting} (fresh : arrival.startedKind? = none) :
    arrival.asArrived = arrival := by
  cases arrival with
  | reply frame => rfl
  | command command =>
      cases started : command.started with
      | true => simp [startedKind?, started] at fresh
      | false => simp [asArrived, ← started]

end Waiting

/-- Whether a command of a kind is in flight on a connection. -/
def Connection.isRunning (kind : CommandKind) (connection : Connection) : Bool :=
  connection.queue.head?.bind Waiting.startedKind? == some kind

theorem Connection.count_running {connection : Connection}
    (headed : Waiting.Headed connection.queue) (kind : CommandKind) :
    (Waiting.running connection.queue).count kind = if connection.isRunning kind then 1 else 0 := by
  unfold isRunning
  cases queue : connection.queue with
  | nil => rfl
  | cons head rest =>
      rw [queue] at headed
      have behind : Waiting.running rest = [] := headed
      rw [Waiting.running_cons, behind, List.append_nil, List.head?_cons, Option.bind_some]
      cases head.startedKind? with
      | none => rfl
      | some running =>
          by_cases same : running = kind
          · simp [same]
          · simp [same, beq_eq_false_iff_ne.mpr same]

def Carried.kind (carried : Carried) : CommandKind :=
  carried.command.kind

def Carried.arrival (carried : Carried) : Waiting :=
  .command carried.command

/-! ## Sessions -/

namespace Session

open Waiting (running Headed)

/-- The counters of two sessions between which commands of some kinds have begun and commands of
some kinds have ended. -/
abbrev Counts (before after : Session) (begun ended : List CommandKind) : Prop :=
  before.services.statistics.Counts after.services.statistics begun ended

section Counting

variable {session : Session}

theorem counts_same (session : Session) : session.Counts session [] [] :=
  Statistics.counts_same _

theorem counts_withQueue (session : Session) (queue : List Waiting) :
    session.Counts (session.withQueue queue) [] [] :=
  Statistics.counts_same _

theorem counts_countCommand (session : Session) : session.Counts session.countCommand [] [] :=
  Statistics.counts_same _

theorem counts_startCommand (session : Session) (kind : CommandKind) :
    session.Counts (session.startCommand kind) [kind] [] :=
  Statistics.counts_startCommand _ kind

theorem counts_endCommand (session : Session) (kind : CommandKind) :
    session.Counts (session.endCommand kind) [] [kind] :=
  Statistics.counts_endCommand _ kind

theorem counts_write (session : Session) (frame : Frame) :
    session.Counts (session.write frame) [] [] := by
  unfold write
  split
  · exact Statistics.counts_same _
  · exact session.counts_same

/-- Closing ends what is running in the queue. -/
theorem counts_close (isOpen : session.connection.isOpen = true) :
    session.Counts session.close [] (running session.connection.queue) := by
  have ended := (Statistics.counts_endEach (running session.connection.queue)
    session.services.statistics).trans (Statistics.counts_removeClient _)
  rw [List.append_nil, List.append_nil] at ended
  unfold close
  rw [if_pos isOpen]
  exact ended

/-- Closing ends nothing where nothing has been taken up. -/
theorem counts_close_of_fresh (fresh : running session.connection.queue = []) :
    session.Counts session.close [] [] := by
  cases openness : session.connection.isOpen with
  | true =>
      have closed := counts_close openness
      rw [fresh] at closed
      exact closed
  | false =>
      rw [close_of_closed openness]
      exact session.counts_same

theorem counts_fail (session : Session) (fresh : running session.connection.queue = [])
    (cause : Failure) : session.Counts (session.fail cause) [] [] := by
  unfold fail
  split
  · exact counts_close_of_fresh fresh
  · exact session.counts_write _

theorem counts_conclude (fresh : running session.connection.queue = []) (kind : CommandKind)
    (outcome : Outcome) : session.Counts (session.conclude kind outcome).1 [] [] := by
  cases outcome with
  | reply frame =>
      have wrote := session.counts_write frame
      unfold conclude
      dsimp only
      split
      · refine wrote.trans (counts_close_of_fresh ?_)
        rw [queue_write]
        exact fresh
      · exact wrote
  | deferred => exact session.counts_same
  | failed cause => exact session.counts_fail fresh cause
  | aborted => exact session.counts_same

theorem counts_perform (session : Session) (command : Command) :
    session.Counts (session.perform command).2 [] [] := by
  rw [Counts, (session.perform_frame command).1]
  exact session.counts_same

/-! ### Turns -/

theorem counts_atOnce (session : Session) (fresh : running session.connection.queue = [])
    {command : Command} (gate : session.gate? command.kind = none) :
    session.Counts (session.answer command).1 [command.kind] [command.kind] := by
  have performed := (session.counts_startCommand command.kind).trans
    (counts_perform _ command)
  have ended := performed.trans (counts_endCommand _ command.kind)
  rw [answer_eq, gate]
  refine ended.trans (counts_conclude ?_ _ _)
  rw [connection_endCommand, (perform_frame _ command).2.2]
  exact fresh

theorem counts_rejected (session : Session) {command : Command} {rejection : Frame}
    (gate : session.gate? command.kind = some rejection) :
    session.Counts (session.answer command).1 [] [] := by
  rw [answer_eq, gate]
  exact session.counts_write rejection

/-- The kinds of commands that a turn ends. -/
def Begun.ended (begun : Begun) (kinds : List CommandKind) : List CommandKind :=
  match begun with
  | .inFlight _ => []
  | .answered _ | .aborted _ _ => kinds

/-- A turn begins the command that it carries out, and ends it unless it is in flight. -/
theorem counts_takeUp (session : Session) (arrival : Waiting) {rest : List Waiting}
    (fresh : running rest = []) :
    session.Counts (session.takeUp arrival rest).session
      ((session.carried? arrival).toList.map Carried.kind)
      ((session.takeUp arrival rest).ended
        ((session.carried? arrival).toList.map Carried.kind)) := by
  have waits := session.counts_withQueue rest
  cases arrival with
  | reply frame => exact waits.trans (counts_write _ frame)
  | command command =>
      cases kindOf : command.kind.isDeferred with
      | true =>
          have beginning := beginning_begin session rest kindOf
          have headed := (session.counts_startCommand command.kind).trans
            (counts_withQueue _ (.command { command with started := true } :: rest))
          rw [takeUp, if_pos kindOf]
          generalize session.begin command rest = begun at beginning ⊢
          cases beginning with
          | rejected gate =>
              rw [carried?, admitted?_of_rejected gate]
              exact waits.trans (counts_write _ _)
          | @failed cause gate ran =>
              have failed := (headed.trans (counts_withQueue _ rest)).trans
                (((session.withHead command rest).withQueue rest).counts_fail fresh cause)
              rw [carried?, admitted?_of_passed gate]
              exact failed.trans (counts_endCommand _ command.kind)
          | deferred gate ran =>
              rw [carried?, admitted?_of_passed gate]
              exact headed.trans (Statistics.counts_same _)
      | false =>
          rw [takeUp, if_neg (Bool.eq_false_iff.mp kindOf)]
          cases gate : session.gate? command.kind with
          | some rejection =>
              have rejected := waits.trans
                ((session.withQueue rest).counts_rejected gate)
              rw [carried?, admitted?_of_rejected gate]
              split <;> rename_i outcome <;> rw [outcome] at rejected <;> exact rejected
          | none =>
              have answered := waits.trans
                ((session.withQueue rest).counts_atOnce fresh gate)
              rw [carried?, admitted?_of_passed gate]
              split <;> rename_i outcome <;> rw [outcome] at answered <;> exact answered

end Counting

/-! ## Ledgers -/

/-- What becomes of a queue and of what arrives behind it: what is carried out is counted as begun,
and as ended unless it stands at the head of the queue that is left. Everything is carried out once
at most, in the order of arrival. -/
structure Ledger (session : Session) (queue arrived : List Waiting) (next : Session)
    (carried : List Carried) : Prop where
  counted : ∃ ended, session.Counts next (carried.map Carried.kind) ended ∧
    ended ++ running next.connection.queue = running queue ++ carried.map Carried.kind
  inOrder : (carried.map Carried.arrival ++ next.connection.queue.filter Waiting.isFresh).Sublist
    (queue.filter Waiting.isFresh ++ arrived)
  headed : Headed next.connection.queue

section Ledgers

variable {session : Session}

theorem Ledger.trans {next last : Session} {queue arrived more : List Waiting}
    {carried later : List Carried} (begun : session.Ledger queue arrived next carried)
    (continued : next.Ledger next.connection.queue more last later) :
    session.Ledger queue (arrived ++ more) last (carried ++ later) where
  counted := by
    obtain ⟨ended, counts, left⟩ := begun.counted
    obtain ⟨endedLater, countsLater, leftLater⟩ := continued.counted
    refine ⟨ended ++ endedLater, ?_, ?_⟩
    · rw [List.map_append]
      exact counts.trans countsLater
    · rw [List.append_assoc, leftLater, ← List.append_assoc, left, List.append_assoc,
        List.map_append]
  inOrder := by
    rw [List.map_append, List.append_assoc, ← List.append_assoc _ arrived]
    refine ((List.Sublist.refl _).append continued.inOrder).trans ?_
    rw [← List.append_assoc]
    exact begun.inOrder.append (List.Sublist.refl more)
  headed := continued.headed

/-- What is carried out of an arrival is the arrival itself. -/
theorem arrival_carried? (session : Session) (arrival : Waiting) :
    ((session.carried? arrival).toList.map Carried.arrival).Sublist [arrival] := by
  cases arrival with
  | reply frame => exact List.nil_sublist _
  | command command =>
      rw [carried?, admitted?]
      split
      · exact List.Sublist.refl _
      · exact List.nil_sublist _

theorem carried?_of_silent {command : Command}
    (silent : session.replyTo? (.command command) = none) :
    session.carried? (.command command) = some ⟨command, session.services.store⟩ := by
  cases gate : session.gate? command.kind with
  | none =>
      rw [carried?, admitted?_of_passed gate]
      rfl
  | some rejection =>
      rw [replyTo?, gate] at silent
      cases silent

theorem ledger_takeUp (isOpen : session.connection.isOpen = true) {arrival : Waiting}
    {rest : List Waiting} (fresh : running (arrival :: rest) = []) :
    session.Ledger (arrival :: rest) [] (session.takeUp arrival rest).session
      (session.carried? arrival).toList := by
  have head := Waiting.running_eq_nil_iff.mp fresh arrival List.mem_cons_self
  have behind : running rest = [] := Waiting.headed_of_fresh fresh
  have counts := session.counts_takeUp arrival behind
  have turn := turn_takeUp isOpen arrival rest
  have once := session.arrival_carried? arrival
  -- Unless the command is in flight, the queue that is left holds nothing that runs.
  have settles : ∀ next : Session, running next.connection.queue = [] →
      (next.connection.queue.filter Waiting.isFresh).Sublist rest →
      session.Counts next ((session.carried? arrival).toList.map Carried.kind)
        ((session.carried? arrival).toList.map Carried.kind) →
      session.Ledger (arrival :: rest) [] next (session.carried? arrival).toList := by
    intro next left behind counts
    refine ⟨⟨_, counts, ?_⟩, ?_, Waiting.headed_of_fresh left⟩
    · rw [left, fresh, List.append_nil, List.nil_append]
    · rw [Waiting.filter_isFresh fresh, List.append_nil]
      exact once.append behind
  generalize session.takeUp arrival rest = begun at counts turn ⊢
  cases turn with
  | answered reply advances stillOpen queue
  | aborted taken atOnce execution silent advances stillOpen queue =>
      refine settles _ (by rw [Begun.session, queue, behind]) ?_ counts
      rw [Begun.session, queue]
      exact List.filter_sublist
  | closed advances isClosed queue =>
      refine settles _ (by rw [Begun.session, queue]; rfl) ?_ counts
      rw [Begun.session, queue]
      exact List.nil_sublist rest
  | @inFlight next command work taken deferred silent advances stillOpen queue =>
      subst taken
      rw [carried?_of_silent silent] at counts ⊢
      refine ⟨⟨_, counts, ?_⟩, ?_, ?_⟩
      · rw [Begun.session, queue, Waiting.running_cons, behind, fresh]
        rfl
      · rw [Begun.session, queue, Waiting.filter_isFresh fresh, List.append_nil]
        rw [List.filter_cons_of_neg (by simp [Waiting.isFresh, Waiting.startedKind?])]
        exact (List.Sublist.refl [_]).append List.filter_sublist
      · rw [Begun.session, queue]
        exact behind

/-- Draining keeps the ledger. -/
theorem ledger_drain (queue : List Waiting) (isOpen : session.connection.isOpen = true)
    (fresh : running queue = []) :
    session.Ledger queue [] (drain queue session).1 (drainCarried queue session) := by
  induction queue generalizing session with
  | nil => exact ⟨⟨[], session.counts_withQueue [], rfl⟩, List.nil_sublist _, rfl⟩
  | cons arrival rest inductionHypothesis =>
      have ledger := ledger_takeUp isOpen fresh
      have turn := turn_takeUp isOpen arrival rest
      rw [drain_cons isOpen, drainCarried]
      cases taken : session.takeUp arrival rest with
      | inFlight next | aborted next reason =>
          rw [taken] at ledger
          rw [List.append_nil]
          exact ledger
      | answered next =>
          rw [taken] at ledger turn
          dsimp only
          split
          · rename_i stillOpen
            have left : next.connection.queue = rest := by
              cases turn with
              | answered reply advances isOpen queue => exact queue
              | closed advances isClosed queue => exact absurd stillOpen (by simp [isClosed])
            refine ledger.trans ?_
            rw [Begun.session, left]
            exact inductionHypothesis stillOpen (Waiting.headed_of_fresh fresh)
          · rw [List.append_nil]
            exact ledger

theorem counts_settleHead (command : Command) {rest : List Waiting} (fresh : running rest = [])
    (result : Except Failure Frame) :
    session.Counts (session.settleHead command rest result) []
      (Waiting.command command).startedKind?.toList := by
  have settled : ∀ last : Session, (session.withQueue rest).Counts last [] [] →
      session.Counts (if command.started then last.endCommand command.kind else last) []
        (Waiting.command command).startedKind?.toList := by
    intro last replied
    have written := (session.counts_withQueue rest).trans replied
    rw [Waiting.startedKind?]
    split
    · exact written.trans (counts_endCommand _ command.kind)
    · exact written
  cases result with
  | ok frame => exact settled _ (counts_write _ frame)
  | error cause => exact settled _ (counts_fail _ fresh cause)

/-- A completion answers the head of the queue, and ends it if its time is running. -/
theorem ledger_settleHead (session : Session) (command : Command) {rest : List Waiting}
    (fresh : running rest = []) (result : Except Failure Frame)
    (left : (session.settleHead command rest result).connection.queue.Sublist rest) :
    session.Ledger (.command command :: rest) [] (session.settleHead command rest result) [] := by
  have nothing : running (session.settleHead command rest result).connection.queue = [] :=
    Waiting.running_eq_nil_iff.mpr fun waiting member =>
      Waiting.running_eq_nil_iff.mp fresh waiting (left.mem member)
  refine ⟨⟨_, counts_settleHead command fresh result, ?_⟩, ?_, Waiting.headed_of_fresh nothing⟩
  · rw [nothing, Waiting.running_cons, fresh, List.map_nil, List.append_nil, List.append_nil]
  · rw [List.append_nil]
    exact (left.filter _).trans (List.Sublist.filter _ (List.sublist_cons_self _ _))

/-! ### Inputs -/

theorem Ledger.mono {next : Session} {queue arrived more : List Waiting} {carried : List Carried}
    (ledger : session.Ledger queue arrived next carried) (least : arrived.Sublist more) :
    session.Ledger queue more next carried where
  counted := ledger.counted
  inOrder := ledger.inOrder.trans ((List.Sublist.refl _).append least)
  headed := ledger.headed

theorem ledger_kept (headed : Headed session.connection.queue) {next : Session}
    (counts : session.Counts next [] [])
    (queue : next.connection.queue = session.connection.queue) :
    session.Ledger session.connection.queue [] next [] := by
  refine ⟨⟨[], counts, ?_⟩, ?_, ?_⟩
  · rw [queue]
    exact (List.append_nil _).symm
  · rw [queue, List.append_nil]
    exact List.Sublist.refl _
  · rw [queue]
    exact headed

theorem ledger_close (isOpen : session.connection.isOpen = true) :
    session.Ledger session.connection.queue [] session.close [] := by
  have left := queue_close isOpen
  refine ⟨⟨_, counts_close isOpen, ?_⟩, ?_, ?_⟩
  · rw [left]
    rfl
  · rw [left]
    exact List.nil_sublist _
  · rw [left]
    rfl

/-- An arrival that waits behind others. -/
theorem ledger_enqueue (session : Session) (headed : Headed session.connection.queue)
    (busy : session.connection.queue ≠ []) {arrival : Waiting}
    (fresh : arrival.startedKind? = none) :
    session.Ledger session.connection.queue [arrival] (session.enqueue arrival) [] := by
  have alone : running [arrival] = [] := Waiting.running_eq_nil_iff.mpr (by simpa using fresh)
  have left : (session.enqueue arrival).connection.queue = session.connection.queue ++ [arrival] :=
    rfl
  refine ⟨⟨[], session.counts_withQueue _, ?_⟩, ?_, ?_⟩
  · rw [left, Waiting.running_append, alone]
    rfl
  · rw [left, List.filter_append, Waiting.filter_isFresh alone]
    exact List.Sublist.refl _
  · unfold Headed
    rw [left, List.tail_append_of_ne_nil busy, Waiting.running_append, alone, List.append_nil]
    exact headed

/-- An arrival that nothing waits before. -/
theorem Ledger.of_idle {begun next : Session} {arrival : Waiting} {carried : List Carried}
    (counts : session.Counts begun [] []) (fresh : arrival.startedKind? = none)
    (ledger : begun.Ledger [arrival] [] next carried) :
    session.Ledger [] [arrival] next carried := by
  have alone : running [arrival] = [] := Waiting.running_eq_nil_iff.mpr (by simpa using fresh)
  obtain ⟨ended, later, left⟩ := ledger.counted
  refine ⟨⟨ended, counts.trans later, ?_⟩, ?_, ledger.headed⟩
  · rw [left, alone]
    rfl
  · have inOrder := ledger.inOrder
    rw [Waiting.filter_isFresh alone, List.append_nil] at inOrder
    exact inOrder

/-- Whatever a connection is told, its ledger is kept. -/
theorem Course.ledger {input : Input} (headed : Headed session.connection.queue)
    (fresh : ∀ arrived, input = .command arrived → arrived.started = false)
    {progress : Progress} {carried : List Carried}
    (course : session.Course input progress carried) :
    session.Ledger session.connection.queue
      ((session.arrival? input).map Waiting.asArrived).toList progress.1 carried := by
  have least := List.nil_sublist ((session.arrival? input).map Waiting.asArrived).toList
  cases course with
  | counted => exact (ledger_kept headed session.counts_countCommand rfl).mono least
  | discarded => exact (ledger_kept headed session.counts_same rfl).mono least
  | detached =>
      have counts : session.Counts session.detach [] [] := Statistics.counts_same _
      exact (ledger_kept headed counts rfl).mono least
  | replied isOpen idle cause whole =>
      exact (ledger_kept headed (session.counts_write _) (session.queue_write _)).mono least
  | closed isOpen | outOfTurn isOpen => exact (ledger_close isOpen).mono least
  | enqueued isOpen busy arrived =>
      have unstarted := Waiting.startedKind?_command (session.numbered arrived) (fresh arrived rfl)
      have counted := ledger_kept headed session.counts_countCommand rfl
      have waits := session.countCommand.ledger_enqueue headed busy unstarted
      rw [arrival?, if_pos isOpen, Option.map_some, Waiting.asArrived_of_fresh unstarted]
      exact counted.trans waits
  | replyEnqueued isOpen busy cause whole =>
      have response : cause.response? = some cause.reply := by
        rw [Failure.response?, whole]
        rfl
      rw [arrival?, if_pos isOpen, response]
      exact session.ledger_enqueue headed busy rfl
  | @broken command rest result isOpen head silent =>
      have left := (settleHead_of_broken isOpen command rest silent).2.2
      rw [head] at headed ⊢
      have behind : running rest = [] := headed
      refine (session.ledger_settleHead command behind result ?_).mono least
      rw [left]
      exact List.nil_sublist rest
  | taken isOpen idle arrived =>
      have unstarted := Waiting.startedKind?_command (session.numbered arrived) (fresh arrived rfl)
      have alone : running [.command (session.numbered arrived)] = [] :=
        Waiting.running_eq_nil_iff.mpr (by simpa using unstarted)
      have stillOpen : session.countCommand.connection.isOpen = true := isOpen
      rw [arrival?, if_pos isOpen, Option.map_some, Waiting.asArrived_of_fresh unstarted, idle]
      exact (ledger_drain _ stillOpen alone).of_idle session.counts_countCommand unstarted
  | @resumed command rest result frame isOpen head reply =>
      have left := session.queue_settleHead_of_reply command rest reply
      have stillOpen := (settleHead_of_reply isOpen command rest reply).2
      rw [head] at headed ⊢
      refine Ledger.mono ?_ least
      have behind : running rest = [] := headed
      have settled := session.ledger_settleHead command behind result (by rw [left])
      refine settled.trans ?_
      rw [left]
      exact ledger_drain rest stillOpen headed

end Ledgers

end Session

end RespServer
