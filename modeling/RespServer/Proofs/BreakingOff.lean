import RespServer.Proofs.Course
import RespServer.Proofs.EndlessSearch
import RespServer.Proofs.Ordering
import RespServer.Proofs.Pool

/-!
Contract: which commands break off, and that nothing else does.

Owns:
- `obstacle?`, why a command breaks off on a store, said without carrying it out;
- that a turn, a drained queue and a step break off exactly at an obstacle, or in a search of the
  worker pool that does not end;
- `RunsTo`, where a run gets to if every search in it ends;
- that where nothing breaks off every arrival is answered, or waits for a job.

Does not own: completions that nobody but a job reports (`Proofs.Pool`).

A time to live is read as any positive number, and only then added to the clock. Nothing between
the reader and the store keeps the sum within what the clock can show.

A search that does not end is more than a step that breaks off. The job that lists keys searches
while it holds the store, so that every later command and job that needs the store waits for ever;
a command that searches never gives its connection back. Of what comes behind such a step nothing is
said here.
-/

namespace RespServer

/-- The clock can show an instant unless its whole seconds take more than 63 bits. -/
theorem Instant.after?_eq_none_iff {start : Instant} {duration : Duration} :
    start.after? duration = none ↔ Nat.pow 2 63 ≤ (Instant.origin + start + duration) / 1000 := by
  unfold Instant.after?
  split
  · rename_i shown
    exact ⟨nofun, fun beyond => absurd shown (Nat.not_lt.mpr beyond)⟩
  · rename_i beyond
    exact ⟨fun _ => Nat.le_of_not_lt beyond, fun _ => rfl⟩

namespace Store

/-- Whether the clock cannot show the end of a time to live that begins now. -/
def isBeyond (store : Store) (lifetime : Duration) : Bool :=
  Nat.pow 2 63 ≤ (Instant.origin + store.now + lifetime) / 1000

theorem after?_of_isBeyond {store : Store} {lifetime : Duration}
    (beyond : store.isBeyond lifetime = true) : store.now.after? lifetime = none :=
  Instant.after?_eq_none_iff.mpr (of_decide_eq_true beyond)

theorem after?_of_not_isBeyond {store : Store} {lifetime : Duration}
    (within : store.isBeyond lifetime = false) :
    ∃ deadline, store.now.after? lifetime = some deadline := by
  refine Option.ne_none_iff_exists'.mp fun missing => ?_
  exact of_decide_eq_false within (Instant.after?_eq_none_iff.mp missing)

end Store

/-! ## Obstacles -/

/-- Why a request breaks off: it would set a deadline that the clock cannot show, or the search of
its pattern in the name of the setting does not end. -/
def Request.obstacle? (store : Store) : Request → Option Abort
  | .set key _ (some lifetime) condition =>
      if SetCondition.admits condition (store.contains key) && store.isBeyond lifetime then
        some .deadlineOverflow
      else none
  | .expire _ seconds =>
      if 0 < seconds ∧ store.isBeyond (seconds.toNat * 1000) then some .deadlineOverflow else none
  | .readSetting pattern =>
      if Glob.matches? (Bytes.ofText pattern) (Bytes.ofText unsupportedSetting) = none then
        some .endlessSearch
      else none
  | _ => none

/-- The same of a command, whose arguments must be fit for its request. -/
def Command.obstacle? (command : Command) (store : Store) : Option Abort :=
  match Request.ofCommand command with
  | .ok request => request.obstacle? store
  | .error _ => none

def Carried.obstacle? (carried : Carried) : Option Abort :=
  carried.command.obstacle? carried.store

/-- Why a command broke off, if it did. -/
def Outcome.abort? : Outcome → Option Abort
  | .aborted reason => some reason
  | .reply _ | .deferred _ | .failed _ => none

/-- Why a turn broke off, if it did. -/
def Session.Begun.abort? : Begun → Option Abort
  | .aborted _ reason => some reason
  | .inFlight _ | .answered _ => none

namespace Request

theorem abort?_runSet (key : String) (value : Bytes) (lifetime : Option Duration)
    (condition : Option SetCondition) (scene : Scene) :
    (runSet key value lifetime condition scene).1.abort? =
      (Request.set key value lifetime condition).obstacle? scene.services.store := by
  change (if SetCondition.admits condition (scene.services.store.contains key) then _
    else (Outcome.reply .null, scene)).1.abort? = _
  cases lifetime with
  | none => split <;> rfl
  | some lifetime =>
      unfold obstacle?
      dsimp only
      cases SetCondition.admits condition (scene.services.store.contains key) with
      | false => rfl
      | true =>
          rw [if_pos rfl, Bool.true_and]
          cases beyond : scene.services.store.isBeyond lifetime with
          | true =>
              rw [Store.setFor?, Store.after?_of_isBeyond beyond]
              rfl
          | false =>
              obtain ⟨deadline, shown⟩ := Store.after?_of_not_isBeyond beyond
              rw [Store.setFor?, shown]
              rfl

theorem abort?_runExpire (key : String) (seconds : Int) (scene : Scene) :
    (runExpire key seconds scene).1.abort? =
      (Request.expire key seconds).obstacle? scene.services.store := by
  unfold runExpire obstacle?
  dsimp only
  split
  · rename_i atMost
    rw [if_neg fun both => absurd both.1 (Int.not_lt.mpr atMost)]
    rfl
  · rename_i above
    have positive : 0 < seconds := Int.not_le.mp above
    cases beyond : scene.services.store.isBeyond (seconds.toNat * 1000) with
    | true =>
        rw [Store.expire?, Store.after?_of_isBeyond beyond, if_pos ⟨positive, rfl⟩]
        rfl
    | false =>
        obtain ⟨deadline, shown⟩ := Store.after?_of_not_isBeyond beyond
        rw [Store.expire?, shown, if_neg fun both => Bool.false_ne_true both.2]
        rfl

theorem abort?_runReadSetting (pattern : String) (services : Services) :
    (runReadSetting pattern services).abort? =
      (Request.readSetting pattern).obstacle? services.store := by
  unfold runReadSetting obstacle?
  dsimp only
  cases Glob.matches? (Bytes.ofText pattern) (Bytes.ofText unsupportedSetting) with
  | none => rfl
  | some matched => cases matched <;> rfl

theorem abort?_outcomeOf (reading : Except Failure α) (reply : α → Frame) :
    (outcomeOf reading reply).abort? = none := by
  cases reading <;> rfl

theorem abort?_runAdd (key : String) (increment : Int) (scene : Scene) :
    (runAdd key increment scene).1.abort? = none := by
  unfold runAdd
  split <;> rfl

/-- A request breaks off exactly at its obstacle. -/
theorem abort?_run (request : Request) (scene : Scene) :
    (request.run scene).1.abort? = request.obstacle? scene.services.store := by
  cases request with
  | set key value lifetime condition => exact abort?_runSet key value lifetime condition scene
  | expire key seconds => exact abort?_runExpire key seconds scene
  | readSetting pattern =>
      unfold run
      dsimp only
      exact abort?_runReadSetting pattern scene.services
  | get | length | readField | readFields | setFields =>
      unfold run obstacle?
      exact abort?_outcomeOf _ _
  | add key increment => exact abort?_runAdd key increment scene
  | subtract key decrement =>
      unfold run obstacle?
      dsimp only
      split
      · exact abort?_runAdd key (-decrement) scene
      · rfl
  | auth | changeSetting | addFloat | take | append | removeFields | client | select
  | setIfMissing =>
      unfold run obstacle?
      dsimp only [runAuth, runChangeSetting, runAddFloat, runTake, changeOf, runClient]
      repeat' split
      all_goals rfl
  | ping payload => cases payload <;> rfl
  | echo | quit | info | shutdown | exist | timeToLive | typeName | publish | defer | unknown => rfl

end Request

theorem Command.abort?_execute (command : Command) (scene : Scene) :
    (command.execute scene).1.abort? = command.obstacle? scene.services.store := by
  unfold Command.execute Command.obstacle?
  cases Request.ofCommand command with
  | error cause => rfl
  | ok request => exact Request.abort?_run request scene

/-- Work that is left to the pool meets no obstacle before. -/
theorem Command.obstacle?_of_deferred {command : Command}
    (deferred : command.kind.isDeferred = true) (store : Store) :
    command.obstacle? store = none := by
  unfold Command.obstacle?
  cases read : Request.ofCommand command with
  | error cause => rfl
  | ok request =>
      have suits := Request.suits_of_ofCommand read
      cases request with
      | defer work => rfl
      | _ => exact absurd (suits.deferral.trans deferred) Bool.false_ne_true

/-! ## Turns and queues -/

namespace Session

theorem abort_conclude (session : Session) (kind : CommandKind) (outcome : Outcome) :
    (session.conclude kind outcome).2 = outcome.abort? := by
  cases outcome <;> rfl

theorem abort_answer (session : Session) {command : Command}
    (atOnce : command.kind.isDeferred = false) :
    (session.answer command).2 =
      (session.carried? (.command command)).bind Carried.obstacle? := by
  rw [answer_eq, carried?]
  cases gate : session.gate? command.kind with
  | some rejection =>
      rw [admitted?_of_rejected gate]
      rfl
  | none =>
      rw [admitted?_of_passed gate]
      dsimp only
      rw [abort_conclude, perform_atOnce _ atOnce]
      exact command.abort?_execute _

/-- A turn breaks off exactly at the obstacle of the command that it carries out. -/
theorem abort?_takeUp (session : Session) (arrival : Waiting) (rest : List Waiting) :
    (session.takeUp arrival rest).abort? =
      (session.carried? arrival).bind Carried.obstacle? := by
  cases arrival with
  | reply frame => rfl
  | command command =>
      rw [takeUp]
      cases kindOf : command.kind.isDeferred with
      | true =>
          have clear : (session.carried? (.command command)).bind Carried.obstacle? = none := by
            rw [carried?, admitted?]
            cases (session.gate? command.kind).isNone with
            | true => exact command.obstacle?_of_deferred kindOf _
            | false => rfl
          have beginning := beginning_begin session rest kindOf
          rw [if_pos rfl, clear]
          generalize session.begin command rest = begun at beginning ⊢
          cases beginning <;> rfl
      | false =>
          have ending := (session.withQueue rest).abort_answer kindOf
          rw [if_neg Bool.false_ne_true]
          generalize (session.withQueue rest).answer command = progress at ending ⊢
          obtain ⟨next, abort⟩ := progress
          have same : (session.withQueue rest).carried? (.command command) =
              session.carried? (.command command) := rfl
          rw [same] at ending
          rw [← ending]
          cases abort <;> rfl

/-- Draining breaks off at the first obstacle, and only there. -/
theorem abort_drain (queue : List Waiting) {session : Session}
    (isOpen : session.connection.isOpen = true) :
    (drain queue session).2 = (drainCarried queue session).findSome? Carried.obstacle? := by
  induction queue generalizing session with
  | nil => rfl
  | cons arrival rest inductionHypothesis =>
      have turn := session.abort?_takeUp arrival rest
      have atHead : (session.carried? arrival).toList.findSome? Carried.obstacle? =
          (session.carried? arrival).bind Carried.obstacle? := by
        cases session.carried? arrival with
        | none => rfl
        | some carried => simp
      rw [drain_cons isOpen, drainCarried, List.findSome?_append, atHead, ← turn]
      cases session.takeUp arrival rest with
      | inFlight next => rfl
      | aborted next reason => rfl
      | answered next =>
          dsimp only [Begun.abort?]
          rw [Option.none_or]
          split
          · exact inductionHypothesis ‹_›
          · rfl

/-- An input breaks off at the first obstacle of what it carries out, or as a completion out of
turn. -/
theorem abort_respond {session : Session} {input : Input}
    (course : session.Course input (session.respond input) (session.carriedBy input)) :
    (session.respond input).2 = (session.carriedBy input).findSome? Carried.obstacle? ∨
      ∃ id head, (session.respond input).2 = some (.outOfTurn id head) := by
  generalize session.respond input = progress, session.carriedBy input = carried at course
  cases course with
  | outOfTurn isOpen id result head => exact Or.inr ⟨id, head, rfl⟩
  | taken isOpen idle arrived =>
      have stillOpen : session.countCommand.connection.isOpen = true := isOpen
      exact Or.inl (abort_drain _ stillOpen)
  | resumed isOpen head reply =>
      exact Or.inl (abort_drain _ (settleHead_of_reply isOpen _ _ reply).2)
  | _ => exact Or.inl rfl

end Session

/-! ## Steps and runs -/

namespace World

/-- Whether an event begins a job whose search does not end. -/
def RunsEndless (world : World) (event : Event) : Prop :=
  ∃ position job, event = .run position ∧ world.services.jobs[position]? = some job ∧
    job.work.IsEndless world.services.store

theorem runDelivery?_eq_none_iff {world : World} {position : Nat} {job : Job}
    (found : world.services.jobs[position]? = some job) :
    world.runDelivery? position = none ↔ job.work.IsEndless world.services.store := by
  rw [runDelivery?, found, Option.bind_some, Option.map_eq_none_iff, Work.report_run_eq_none_iff]

/-- Where no connection is told anything, only an endless search breaks off. -/
theorem abort_of_runsEndless {world : World} {event : Event} :
    world.RunsEndless event → world.delivery? event = none
      ∧ (world.apply event).2 = some .endlessSearch := by
  rintro ⟨position, job, rfl, found, endless⟩
  refine ⟨(runDelivery?_eq_none_iff found).mpr endless, ?_⟩
  rw [apply, runJob?, found]
  dsimp only
  rw [Work.report_run_eq_none_iff.mpr endless]
  rfl

theorem runsEndless_of_abort {world : World} {event : Event} {reason : Abort}
    (undelivered : world.delivery? event = none)
    (aborted : (world.apply event).2 = some reason) : world.RunsEndless event := by
  cases event with
  | receive | accept | report | complete | close | detach => cases undelivered
  | run position =>
      cases found : world.services.jobs[position]? with
      | none =>
          rw [apply, runJob?, found] at aborted
          cases aborted
      | some job =>
          exact ⟨position, job, rfl, found, (runDelivery?_eq_none_iff found).mp undelivered⟩
  | connect | allow | stop | advance => cases aborted

/-- A step of regular events breaks off at the first obstacle of what it carries out, or in a
search of the pool that does not end. -/
theorem Fit.abort_step {world : World} (fit : world.Fit) {event : Event}
    (regular : event.isRegular = true) (reason : Abort) :
    (world.step event).2 = some reason ↔
      (world.carriedAt event).findSome? Carried.obstacle? = some reason
        ∨ reason = .endlessSearch ∧ world.sweep.RunsEndless event := by
  cases telling : world.told? event with
  | some told =>
      obtain ⟨session, input⟩ := told
      obtain ⟨index, told⟩ := inputTo?_of_told? telling
      obtain ⟨delivery, delivered, -⟩ := delivery_of_told told
      have ends : ¬world.sweep.RunsEndless event := by
        intro endless
        rw [(abort_of_runsEndless endless).1] at delivered
        cases delivered
      have inTurn := fit.inTurn regular
      rw [step_of_told told] at inTurn ⊢
      rw [carriedAt_of_told told]
      rcases Session.abort_respond (fit.orderly.course told) with same | ⟨id, head, outOfTurn⟩
      · rw [← same]
        exact ⟨Or.inl, fun either => either.resolve_right fun both => ends both.2⟩
      · exact absurd outOfTurn (inTurn id head)
  | none =>
      have nothing : world.carriedAt event = [] := by
        rw [carriedAt, telling]
      rw [nothing]
      constructor
      · intro aborted
        right
        cases delivered : world.sweep.delivery? event with
        | none =>
            exact ⟨abort_of_undelivered delivered aborted, runsEndless_of_abort delivered aborted⟩
        | some delivery =>
            rw [told?, delivered, Option.bind_some, Option.map_eq_none_iff] at telling
            rw [World.step, apply_of_delivery delivered, atConnection, telling] at aborted
            cases aborted
      · rintro (first | ⟨rfl, endless⟩)
        · cases first
        · exact (abort_of_runsEndless endless).2

/-- A step ends unless it carries out a command that searches without end, or begins such a job. -/
theorem Fit.step_ends_iff {world : World} (fit : world.Fit) {event : Event}
    (regular : event.isRegular = true) :
    (world.step event).2 ≠ some .endlessSearch ↔
      (world.carriedAt event).findSome? Carried.obstacle? ≠ some .endlessSearch
        ∧ ¬world.sweep.RunsEndless event := by
  rw [Ne, fit.abort_step regular, not_or, and_iff_right rfl]

/-- Whether every step of a run ends. -/
def stepsEnd (world : World) : List Event → Bool
  | [] => true
  | event :: rest =>
      (world.step event).2 ≠ some .endlessSearch && (world.step event).1.stepsEnd rest

/-- A run whose searches all end, and the world that it gets to. -/
structure RunsTo (world : World) (events : List Event) (reached : World) : Prop where
  ends : world.stepsEnd events = true
  arrives : world.after events = reached

/-- At an event without obstacles no command breaks off, and no queue is stranded. -/
theorem Fit.whole_step {world : World} (fit : world.Fit) {event : Event}
    (regular : event.isRegular = true)
    (clear : ∀ carried ∈ world.carriedAt event, carried.obstacle? = none) :
    world.breaksOff event = false ∧ ∀ index, world.strandsAt index event = false := by
  have nothing : (world.carriedAt event).findSome? Carried.obstacle? = none :=
    List.findSome?_eq_none_iff.mpr clear
  have whole : ∀ index session input,
      world.inputTo? index event = some (session, input) → (world.step event).2 = none := by
    intro index session input told
    obtain ⟨delivery, delivered, -⟩ := delivery_of_told told
    refine Option.eq_none_iff_forall_ne_some.mpr fun reason aborted => ?_
    rcases (fit.abort_step regular reason).mp aborted with first | ⟨-, endless⟩
    · rw [nothing] at first
      cases first
    · rw [(abort_of_runsEndless endless).1] at delivered
      cases delivered
  constructor
  · unfold breaksOff
    cases delivered : world.sweep.delivery? event with
    | none => rfl
    | some delivery =>
        cases present : delivery.world.session? delivery.connection with
        | none =>
            rw [World.step, apply_of_delivery delivered, atConnection, present]
            rfl
        | some session =>
            rw [whole _ _ _ (told_of_delivery delivered present)]
            rfl
  · intro index
    unfold strandsAt
    cases telling : world.inputTo? index event with
    | none => rfl
    | some told =>
        have ends := whole _ _ _ telling
        rw [step_of_told telling] at ends
        dsimp only at ends ⊢
        rw [Session.leavesBehind, ends]
        rfl

/-- The same along a run. -/
theorem Fit.whole_after {world : World} (fit : world.Fit) {events : List Event}
    (regular : ∀ event ∈ events, event.isRegular = true)
    (clear : ∀ carried ∈ world.carried events, carried.obstacle? = none) :
    world.unbroken events = true ∧ ∀ index, world.strands index events = false := by
  induction events generalizing world with
  | nil => exact ⟨rfl, fun _ => rfl⟩
  | cons event rest inductionHypothesis =>
      obtain ⟨regularNow, regularLater⟩ := List.forall_mem_cons.mp regular
      obtain ⟨clearNow, clearLater⟩ := List.forall_mem_append.mp clear
      obtain ⟨whole, unstranded⟩ := fit.whole_step regularNow clearNow
      obtain ⟨unbroken, later⟩ := inductionHypothesis (fit.step regularNow) regularLater clearLater
      refine ⟨?_, fun index => ?_⟩
      · rw [World.unbroken, whole, unbroken]
        rfl
      · rw [strands, unstranded, later]
        rfl

/-- A run of regular events whose searches all end gets to a world in which the next step breaks off
exactly if a command that it carries out would set a deadline that the clock cannot show, or
searches for a setting without end, or if it begins a job whose search does not end. Where no
command carried out is of that kind, every arrival on an open connection has got its reply, or waits
in a queue whose head has its job in the pool. -/
theorem breaks_off_iff_obstacle {services : Services} (idle : services.jobs = [])
    {events : List Event} (regular : ∀ event ∈ events, event.isRegular = true) {world : World}
    (reached : RunsTo ⟨services, []⟩ events world) :
    (∀ event : Event, event.isRegular = true → ∀ reason,
      (world.step event).2 = some reason ↔
        (world.carriedAt event).findSome? Carried.obstacle? = some reason
          ∨ reason = .endlessSearch ∧ world.sweep.RunsEndless event) ∧
    ((∀ performed ∈ carried ⟨services, []⟩ events, performed.obstacle? = none) →
      ∀ (index : Nat) (connection : Connection), .detach index ∉ events →
        world.connections[index]? = some connection → connection.isOpen = true →
          let given := answers ⟨services, []⟩ index events
          connection.written = given.map Answer.frame
            ∧ arrivals ⟨services, []⟩ index events =
                given.map Answer.arrival ++ connection.queue.map Waiting.asArrived
            ∧ (connection.queue ≠ [] → HeadInFlight world.services connection)) := by
  obtain ⟨-, rfl⟩ := reached
  have start : Fit ⟨services, []⟩ := fit_of_none idle
  have fit : (after ⟨services, []⟩ events).Fit := start.after regular
  refine ⟨fun event regularEvent reason => fit.abort_step regularEvent reason, ?_⟩
  intro clear index connection attached found isOpen given
  obtain ⟨unbroken, unstranded⟩ := start.whole_after regular clear
  have accounted : connection.Accounted ([] ++ arrivals ⟨services, []⟩ index events)
      ([] ++ given) :=
    accounted_after (orderly_of_none services) nofun (fun _ => ⟨rfl, rfl⟩) attached unbroken found
  rw [List.nil_append, List.nil_append] at accounted
  refine ⟨accounted.written, accounted.waiting isOpen, ?_⟩
  rw [fit.headInFlight_iff found isOpen]
  have stranded : Stranded connection ((after ⟨services, []⟩ events).services.jobsOf index) ↔
      False ∨ strands ⟨services, []⟩ index events = true :=
    start.stranded_after nofun (fun _ => id) regular found isOpen
  rw [stranded, unstranded index]
  simp

/-- A deadline in a minute does not break off, and a ping waits for the job of a count; a deadline
that the clock cannot show would break off. -/
theorem minute_is_within_clock :
    let start : World := ⟨Services.start none false, []⟩
    let events : List Event :=
      [.connect, .receive 0 (Command.new "EXPIRE" (["key", "60"].map Bytes.ofText)),
        .receive 0 (Command.new "DBSIZE" []), .receive 0 (Command.new "PING" [])]
    let later : Event :=
      .receive 1 (Command.new "EXPIRE" (["key", "9223372036854775807"].map Bytes.ofText))
    ((start.after (events ++ [.connect])).step later).2 = some .deadlineOverflow
      ∧ ∃ connection, (start.after events).connections[0]? = some connection
        ∧ connection.written = (answers start 0 events).map Answer.frame
        ∧ HeadInFlight (start.after events).services connection := by
  constructor
  · obtain ⟨breaksOff, -⟩ := @breaks_off_iff_obstacle (Services.start none false) rfl
      [.connect, .receive 0 (Command.new "EXPIRE" (["key", "60"].map Bytes.ofText)),
        .receive 0 (Command.new "DBSIZE" []), .receive 0 (Command.new "PING" []), .connect]
      (by decide) _ ⟨by decide +kernel, rfl⟩
    exact (breaksOff _ rfl _).mpr (Or.inl (by decide +kernel))
  · obtain ⟨-, whole⟩ := @breaks_off_iff_obstacle (Services.start none false) rfl
      [.connect, .receive 0 (Command.new "EXPIRE" (["key", "60"].map Bytes.ofText)),
        .receive 0 (Command.new "DBSIZE" []), .receive 0 (Command.new "PING" [])]
      (by decide) _ ⟨by decide +kernel, rfl⟩
    obtain ⟨written, -, waits⟩ := whole (by decide +kernel) 0 _ nofun rfl rfl
    exact ⟨_, rfl, written, waits nofun⟩

/-- A time to live beyond what the clock can show is read as a number, and then breaks off: the
connection stays open and gets no reply. -/
theorem far_deadline_gets_no_reply :
    let start : World := ⟨Services.start none false, []⟩
    let arguments := ["key", "value", "EX", "9223372036854775807"].map Bytes.ofText
    let event : Event := .receive 0 (Command.new "SET" arguments)
    let reached := (start.after [.connect]).step event
    event.isRegular = true ∧ reached.2 = some .deadlineOverflow
      ∧ ∃ connection, reached.1.connections[0]? = some connection
        ∧ connection.isOpen = true ∧ connection.written = [] ∧ connection.queue = [] :=
  ⟨rfl, by decide +kernel, _, rfl, rfl, rfl, rfl⟩

end World

end RespServer
