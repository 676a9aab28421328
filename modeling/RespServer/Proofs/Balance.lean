import Mathlib
import RespServer.Proofs.Counting

/-!
Contract: the counters of the server balance in every run.

Owns:
- `World.Counted`, the counters of a world against its connections and what was carried out;
- the counters of every run.

Does not own: what one input adds to the counters (`Proofs.Counting`).

A command in flight is one that has begun and has not ended. So the counters never fall below zero,
although they are words that would wrap around.
-/

namespace RespServer

/-! ## Runs -/

/-- Whether an event brings no command that has been taken up before. -/
def World.Event.isFresh : World.Event → Bool
  | .receive _ command => !command.started
  | _ => true

def World.Event.isConnect : World.Event → Bool
  | .connect => true
  | _ => false

namespace World

theorem fresh_of_told {world : World} {index : Nat} {event : Event} {session : Session}
    {input : Input} (fresh : event.isFresh = true)
    (told : world.inputTo? index event = some (session, input)) :
    ∀ arrived, input = .command arrived → arrived.started = false := by
  rintro arrived rfl
  obtain ⟨delivery, delivered, -, said, -⟩ := delivery_of_told told
  cases event with
  | receive connection command =>
      cases delivered
      cases said
      simpa [Event.isFresh] using fresh
  | accept connection frame =>
      cases delivered
      unfold Input.ofFrame at said
      split at said
      · rename_i read
        cases said
        exact started_of_ofFrame? read
      · cases said
  | run position =>
      obtain ⟨job, completion, -, -, rfl⟩ := job_of_runDelivery? delivered
      cases said
  | report | complete | close | detach =>
      cases delivered
      cases said
  | connect | allow | stop | advance => cases delivered

/-- How many arrivals wait that have not been taken up. -/
def pending (world : World) : Nat :=
  (world.connections.map fun connection => connection.queue.countP Waiting.isFresh).sum

/-- The counters of a world in which so many steps were made and commands were carried out. -/
structure Counted (world : World) (performed : List Carried) (steps : Nat) : Prop where
  headed : ∀ connection ∈ world.connections, Waiting.Headed connection.queue
  tallied : ∃ ended,
    Statistics.zero.Counts world.services.statistics (performed.map Carried.kind) ended ∧
      ∀ kind, (performed.map Carried.kind).count kind =
        ended.count kind + world.connections.countP (Connection.isRunning kind)
  connections : world.services.statistics.connections = .ofNat world.connections.length
  clients : world.services.statistics.clients = .ofNat (world.connections.countP Connection.isOpen)
  bounded : performed.length + world.pending + world.connections.length ≤ steps

theorem counted_start {services : Services} (zero : services.statistics = .zero) :
    Counted ⟨services, []⟩ [] 0 := by
  refine ⟨nofun, ⟨[], ?_, fun kind => rfl⟩, ?_, ?_, Nat.le_refl 0⟩
  · rw [zero]
    exact Statistics.counts_same _
  · rw [zero]
    rfl
  · rw [zero]
    rfl

/-- What a connection is told keeps the counters. -/
theorem Counted.told {world : World} {performed : List Carried} {steps : Nat}
    (counted : world.Counted performed steps) {session : Session} {arrived : List Waiting}
    {front back : List Connection} {next : Session} {carried : List Carried}
    (before : world.connections = front ++ session.connection :: back)
    (statistics : session.services.statistics = world.services.statistics)
    (ledger : session.Ledger session.connection.queue arrived next carried)
    (census : next.census = session.census) (atMost : arrived.length ≤ 1) :
    Counted ⟨next.services, front ++ next.connection :: back⟩ (performed ++ carried)
      (steps + 1) := by
  have headed := counted.headed
  rw [before, List.forall_mem_append, List.forall_mem_cons] at headed
  obtain ⟨headedFront, headedHere, headedBack⟩ := headed
  obtain ⟨ended, tallied, balance⟩ := counted.tallied
  obtain ⟨endedNow, counts, left⟩ := ledger.counted
  rw [← statistics] at tallied
  refine ⟨?_, ⟨ended ++ endedNow, ?_, fun kind => ?_⟩, ?_, ?_, ?_⟩
  · rw [List.forall_mem_append, List.forall_mem_cons]
    exact ⟨headedFront, ledger.headed, headedBack⟩
  · rw [List.map_append]
    exact tallied.trans counts
  · have balanced := balance kind
    have moved := congrArg (List.count kind) left
    rw [List.count_append, List.count_append, Connection.count_running ledger.headed,
      Connection.count_running headedHere] at moved
    rw [before, List.countP_append, List.countP_cons] at balanced
    rw [List.map_append, List.count_append, List.count_append, List.countP_append,
      List.countP_cons, balanced]
    omega
  · have connections : next.services.statistics.connections =
        session.services.statistics.connections := congrArg Prod.snd census
    rw [connections, statistics, counted.connections, before, List.length_append,
      List.length_append]
    rfl
  · have clients : next.services.statistics.clients - next.connection.isOpen.toUInt64 =
        session.services.statistics.clients - session.connection.isOpen.toUInt64 :=
      congrArg Prod.fst census
    have presence : ∀ isOpen : Bool, isOpen.toUInt64 = .ofNat (if isOpen = true then 1 else 0) := by
      decide
    rw [statistics, counted.clients, before, List.countP_append, List.countP_cons, presence,
      presence] at clients
    rw [List.countP_append, List.countP_cons]
    simp only [UInt64.ofNat_add] at clients ⊢
    grind
  · have length := ledger.inOrder.length_le
    have bounded := counted.bounded
    unfold pending at bounded ⊢
    rw [before] at bounded
    simp only [List.length_append, List.length_map, List.map_append, List.map_cons,
      List.sum_append_nat, List.sum_cons, List.countP_eq_length_filter, List.length_cons]
      at length bounded ⊢
    omega

theorem Counted.step {world : World} {performed : List Carried} {steps : Nat}
    (counted : world.Counted performed steps) (orderly : world.Orderly) {event : Event}
    (fresh : event.isFresh = true) :
    (world.step event).1.Counted (performed ++ world.carriedAt event) (steps + 1) := by
  have movement := world.movement_step event
  have bounded := counted.bounded
  generalize (world.step event).1 = next at movement ⊢
  cases movement with
  | @told session input index front back told before statistics =>
      have course := orderly.course told
      have headed := counted.headed _ (List.mem_of_getElem? (found_of_told told))
      have ledger := course.ledger headed (fresh_of_told fresh told)
      rw [carriedAt_of_told told]
      refine counted.told before statistics ledger course.census ?_
      cases session.arrival? input with
      | none => exact Nat.zero_le 1
      | some arrival => exact Nat.le_refl 1
  | opened connects untold connections statistics =>
      rw [carriedAt, untold, List.append_nil]
      obtain ⟨ended, tallied, balance⟩ := counted.tallied
      refine ⟨?_, ⟨ended, ?_, fun kind => ?_⟩, ?_, ?_, ?_⟩
      · rw [connections, List.forall_mem_append, List.forall_mem_singleton]
        exact ⟨counted.headed, rfl⟩
      · rw [statistics]
        simpa using tallied.trans (Statistics.counts_addClient _)
      · rw [connections, List.countP_append, balance]
        rfl
      · rw [connections, statistics, Statistics.addClient, counted.connections, List.length_append,
          UInt64.ofNat_add]
        rfl
      · rw [connections, statistics, Statistics.addClient, counted.clients, List.countP_append,
          UInt64.ofNat_add]
        rfl
      · unfold pending at bounded ⊢
        rw [connections, List.map_append, List.sum_append_nat, List.length_append]
        exact Nat.succ_le_succ bounded
  | quiet other untold connections statistics =>
      rw [carriedAt, untold, List.append_nil]
      refine ⟨?_, ?_, ?_, ?_, ?_⟩
      · rw [connections]
        exact counted.headed
      · rw [connections, statistics]
        exact counted.tallied
      · rw [connections, statistics]
        exact counted.connections
      · rw [connections, statistics]
        exact counted.clients
      · unfold pending at bounded ⊢
        rw [connections]
        exact Nat.le_succ_of_le bounded

/-- The counters of every run. -/
theorem Counted.after {world : World} {performed : List Carried} {steps : Nat}
    (counted : world.Counted performed steps) (orderly : world.Orderly) {events : List Event}
    (fresh : ∀ event ∈ events, event.isFresh = true) :
    (world.after events).Counted (performed ++ world.carried events) (steps + events.length) := by
  induction events generalizing world performed steps with
  | nil =>
      rw [World.carried, List.append_nil]
      exact counted
  | cons event rest inductionHypothesis =>
      obtain ⟨freshNow, freshLater⟩ := List.forall_mem_cons.mp fresh
      have later := inductionHypothesis (counted.step orderly freshNow) (orderly.step event)
        freshLater
      rw [World.carried, ← List.append_assoc, List.length_cons, Nat.add_comm rest.length,
        ← Nat.add_assoc]
      exact later

/-- Every connection that is there was opened by an event. -/
theorem length_connections_after (world : World) (events : List Event) :
    (world.after events).connections.length =
      world.connections.length + events.countP Event.isConnect := by
  induction events generalizing world with
  | nil => rfl
  | cons event rest inductionHypothesis =>
      have movement := world.movement_step event
      have later := inductionHypothesis (world.step event).1
      rw [List.countP_cons]
      change ((world.step event).1.after rest).connections.length = _
      rw [later]
      generalize (world.step event).1 = next at movement
      cases movement with
      | @told session input index front back told before statistics =>
          have other : event.isConnect = false := by
            obtain ⟨delivery, delivered, -⟩ := delivery_of_told told
            cases event with
            | connect => cases delivered
            | _ => rfl
          rw [before, other]
          simp
      | opened connects untold connections statistics =>
          rw [connections, connects, List.length_append]
          simp [Event.isConnect]
          omega
      | quiet other untold connections statistics =>
          have other : event.isConnect = false := by
            cases event with
            | connect => exact absurd rfl other
            | _ => rfl
          rw [connections, other]
          simp

/-! ## Words as numbers -/

/-- As long as fewer steps were made than words can count, the counters are the numbers that they
stand for. -/
structure Counted.Exact (world : World) (performed : List Carried) : Prop where
  inProgress : ∀ kind, (world.services.statistics.tally kind).inProgress.toNat =
    world.connections.countP (Connection.isRunning kind)
  calls : ∀ kind,
    (world.services.statistics.tally kind).calls.toNat
        + (world.services.statistics.tally kind).inProgress.toNat =
      (performed.map Carried.kind).count kind
  commands : world.services.statistics.commands.toNat =
    (CommandKind.all.map fun kind => (world.services.statistics.tally kind).calls.toNat).sum
  connections : world.services.statistics.connections.toNat = world.connections.length
  clients : world.services.statistics.clients.toNat = world.connections.countP Connection.isOpen

theorem Counted.exact {world : World} {performed : List Carried} {steps : Nat}
    (counted : world.Counted performed steps) (few : steps < 2 ^ 64) :
    Counted.Exact world performed := by
  obtain ⟨ended, tallied, balance⟩ := counted.tallied
  have bounded := counted.bounded
  have performs : performed.length < 2 ^ 64 := by omega
  have opened : world.connections.length < 2 ^ 64 := by omega
  have balanced : ended.length ≤ performed.length := by
    have within : ended.Subperm (performed.map Carried.kind) := by
      refine List.subperm_ext_iff.mpr fun kind _ => ?_
      rw [balance kind]
      exact Nat.le_add_right _ _
    simpa using within.length_le
  have number : ∀ {count : Nat}, count ≤ ended.length → (UInt64.ofNat count).toNat = count :=
    fun least => UInt64.toNat_ofNat_of_lt' (by unfold UInt64.size; omega)
  have calls : ∀ kind, (world.services.statistics.tally kind).calls.toNat = ended.count kind := by
    intro kind
    rw [tallied.calls kind, Statistics.tally_zero, UInt64.zero_add, number List.count_le_length]
  have inProgress : ∀ kind, (world.services.statistics.tally kind).inProgress.toNat =
      world.connections.countP (Connection.isRunning kind) := by
    intro kind
    have same := tallied.inProgress kind
    rw [balance kind, Statistics.tally_zero, UInt64.zero_add, UInt64.ofNat_add,
      UInt64.add_comm (UInt64.ofNat (ended.count kind))] at same
    rw [UInt64.add_left_inj _ |>.mp same]
    have least := List.countP_le_length (p := Connection.isRunning kind) (l := world.connections)
    exact UInt64.toNat_ofNat_of_lt' (by unfold UInt64.size; omega)
  constructor
  · exact inProgress
  · intro kind
    rw [calls kind, inProgress kind, balance kind]
  · simp only [calls]
    rw [CommandKind.sum_count_all, tallied.commands]
    exact (congrArg UInt64.toNat (UInt64.zero_add _)).trans (number (Nat.le_refl _))
  · rw [counted.connections]
    exact UInt64.toNat_ofNat_of_lt' (by unfold UInt64.size; omega)
  · have least := List.countP_le_length (p := Connection.isOpen) (l := world.connections)
    rw [counted.clients]
    exact UInt64.toNat_ofNat_of_lt' (by unfold UInt64.size; omega)

/-! ## Once at most -/

/-- What waits on a connection; nothing if it is not opened yet. -/
def queueOf (world : World) (index : Nat) : List Waiting :=
  world.connections[index]?.elim [] Connection.queue

theorem Counted.inOrder_step {world : World} {performed : List Carried} {steps : Nat}
    (counted : world.Counted performed steps) (orderly : world.Orderly) (index : Nat)
    {event : Event} (fresh : event.isFresh = true) :
    ((world.executed index [event]).map Waiting.command
        ++ ((world.step event).1.queueOf index).filter Waiting.isFresh).Sublist
      ((world.queueOf index).filter Waiting.isFresh ++ world.arrivals index [event]) := by
  simp only [executed, arrivals, List.append_nil]
  unfold queueOf
  cases present : (world.step event).1.connections[index]? with
  | none =>
      rw [(untold_of_absent present).2]
      exact List.nil_sublist _
  | some connection =>
      cases origin_of_found present with
      | kept untold found =>
          rw [untold, found]
          simp
      | opened untold unborn new =>
          rw [untold, new]
          exact List.nil_sublist _
      | @told session input told reacts =>
          have course := orderly.course told
          have headed := counted.headed _ (List.mem_of_getElem? (found_of_told told))
          have ledger := course.ledger headed (fresh_of_told fresh told)
          have same : (session.carriedBy input).map Carried.arrival =
              (session.executedBy input).map Waiting.command := by
            rw [← Session.map_command_carriedBy, List.map_map]
            rfl
          have inOrder := ledger.inOrder
          rw [same] at inOrder
          rw [told, found_of_told told, reacts]
          exact inOrder

/-- Along a run each arrival is carried out once at most, in the order of arrival. -/
theorem Counted.inOrder_after {world : World} {performed : List Carried} {steps : Nat}
    (counted : world.Counted performed steps) (orderly : world.Orderly) (index : Nat)
    {events : List Event} (fresh : ∀ event ∈ events, event.isFresh = true) :
    ((world.executed index events).map Waiting.command
        ++ ((world.after events).queueOf index).filter Waiting.isFresh).Sublist
      ((world.queueOf index).filter Waiting.isFresh ++ world.arrivals index events) := by
  induction events generalizing world performed steps with
  | nil =>
      rw [arrivals, List.append_nil]
      exact List.Sublist.refl _
  | cons event rest inductionHypothesis =>
      obtain ⟨freshNow, freshLater⟩ := List.forall_mem_cons.mp fresh
      have now := counted.inOrder_step orderly index freshNow
      have later := inductionHypothesis (counted.step orderly freshNow) (orderly.step event)
        freshLater
      rw [executed_cons, arrivals_cons, List.map_append, List.append_assoc,
        ← List.append_assoc (List.filter _ _)]
      refine ((List.Sublist.refl _).append later).trans ?_
      rw [← List.append_assoc]
      exact now.append (List.Sublist.refl _)

/-- In a run of fewer events than a word can count, whatever interleaving of commands, jobs,
failures, completions by anyone and closes it is, and whatever of it breaks off: as many commands of
a kind are in progress as open connections have one in flight; with those that have ended they are
the commands that passed the gates and were carried out; all kinds together make up the total; every
connection is counted, and as a client until it is closed. A connection carries out each arrival
once at most. -/
theorem counters_balance {services : Services} (zero : services.statistics = .zero)
    {events : List Event} (fresh : ∀ event ∈ events, event.isFresh = true)
    (few : events.length < 2 ^ 64) :
    let start : World := ⟨services, []⟩
    let world := start.after events
    let statistics := world.services.statistics
    (∀ kind,
      (statistics.tally kind).inProgress.toNat =
          world.connections.countP (fun connection =>
            connection.isOpen && connection.isRunning kind)
        ∧ (statistics.tally kind).calls.toNat + (statistics.tally kind).inProgress.toNat =
          (start.carried events).countP (fun carried => carried.kind == kind)) ∧
    statistics.commands.toNat =
      (CommandKind.all.map fun kind => (statistics.tally kind).calls.toNat).sum ∧
    statistics.connections.toNat = events.countP Event.isConnect ∧
    statistics.clients.toNat + world.connections.countP (fun connection => !connection.isOpen) =
      events.countP Event.isConnect ∧
    ∀ index, ((start.executed index events).map Waiting.command).Sublist
      (start.arrivals index events) := by
  intro start world statistics
  have begun := counted_start zero
  have orderly := orderly_of_none services
  have counted : world.Counted (start.carried events) events.length := by
    simpa using begun.after orderly fresh
  have exact := counted.exact few
  have opened : world.connections.length = events.countP Event.isConnect := by
    rw [length_connections_after]
    exact Nat.zero_add _
  refine ⟨fun kind => ⟨?_, ?_⟩, exact.commands, ?_, ?_, fun index => ?_⟩
  · rw [exact.inProgress kind]
    refine List.countP_congr fun connection member => ?_
    obtain ⟨index, found⟩ := List.mem_iff_getElem?.mp member
    have emptied := (orderly.after events).emptied found
    cases openness : connection.isOpen with
    | true => rw [Bool.true_and]
    | false => simp [Connection.isRunning, emptied openness]
  · rw [exact.calls kind, List.count_eq_countP, List.countP_map]
    rfl
  · rw [exact.connections, opened]
  · have split := List.length_eq_countP_add_countP Connection.isOpen (l := world.connections)
    rw [exact.clients, ← opened, split]
    simp
  · have inOrder := begun.inOrder_after orderly index fresh
    exact (List.sublist_append_left _ _).trans inOrder

/-- A count is in flight, a ping waits for it, and another connection is closed by a completion that
nobody asked for. -/
theorem stray_completion_is_counted :
    let events : List Event :=
      [.connect, .connect, .receive 0 (Command.new "DBSIZE" []), .receive 0 (Command.new "PING" []),
        .receive 1 (Command.new "DBSIZE" []), .complete 1 7 (.ok .null)]
    let statistics := (after ⟨Services.start none false, []⟩ events).services.statistics
    (statistics.tally .dbsize).inProgress.toNat = 1
      ∧ (statistics.tally .dbsize).calls.toNat + (statistics.tally .dbsize).inProgress.toNat = 2
      ∧ (statistics.tally .ping).calls.toNat + (statistics.tally .ping).inProgress.toNat = 0
      ∧ statistics.connections.toNat = 2 ∧ statistics.clients.toNat + 1 = 2 := by
  obtain ⟨tallies, -, connections, clients, -⟩ := @counters_balance (Services.start none false) rfl
    [.connect, .connect, .receive 0 (Command.new "DBSIZE" []),
      .receive 0 (Command.new "PING" []), .receive 1 (Command.new "DBSIZE" []),
      .complete 1 7 (.ok .null)]
    (by decide) (by decide)
  exact ⟨(tallies .dbsize).1, (tallies .dbsize).2, (tallies .ping).2, connections, clients⟩

end World

end RespServer
