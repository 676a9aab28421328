import RespServer.Proofs.Run

/-!
Contract: replies leave in the order of arrival.

Owns:
- `arrivals` and `answers`, the account of what a connection took in and what it answered;
- what one reaction adds to the account, and the account of every run.

Does not own: when the answer to a deferred command comes (`Proofs.InFlight`).

The account is kept beside the run and says nothing of queues: an arrival is entered when an open
connection takes it in, an answer when the arrival has its turn or its completion is reported.
-/

namespace RespServer

namespace World

/-- What a connection took in during events, in order. -/
def arrivals (world : World) (index : Nat) : List Event → List Waiting
  | [] => []
  | event :: rest =>
      (match world.inputTo? index event with
        | none => []
        | some (session, input) => ((session.arrival? input).map Waiting.asArrived).toList)
        ++ (world.step event).1.arrivals index rest

/-- What a connection answered during events, in order. -/
def answers (world : World) (index : Nat) : List Event → List Answer
  | [] => []
  | event :: rest =>
      (match world.inputTo? index event with
        | none => []
        | some (session, input) => session.answersTo input)
        ++ (world.step event).1.answers index rest

theorem answers_cons (world : World) (index : Nat) (event : Event) (rest : List Event) :
    world.answers index (event :: rest) =
      world.answers index [event] ++ (world.step event).1.answers index rest := by
  simp only [answers, List.append_nil]

theorem arrivals_append (world : World) (index : Nat) (earlier later : List Event) :
    world.arrivals index (earlier ++ later) =
      world.arrivals index earlier ++ (world.after earlier).arrivals index later := by
  induction earlier generalizing world with
  | nil => rfl
  | cons event rest inductionHypothesis =>
      rw [List.cons_append, arrivals, arrivals, inductionHypothesis, List.append_assoc]
      rfl

theorem arrivals_cons (world : World) (index : Nat) (event : Event) (rest : List Event) :
    world.arrivals index (event :: rest) =
      world.arrivals index [event] ++ (world.step event).1.arrivals index rest :=
  world.arrivals_append index [event] rest

/-- Whether no command breaks off that is carried out during events. -/
def unbroken (world : World) : List Event → Bool
  | [] => true
  | event :: rest => !world.breaksOff event && (world.step event).1.unbroken rest

/-- Whether a command of a connection breaks off during events. -/
def breaksOffAt (world : World) (index : Nat) : List Event → Bool
  | [] => false
  | event :: rest =>
      (match world.inputTo? index event with
        | none => false
        | some (session, input) => (session.respond input).2.any Abort.isExecution)
        || (world.step event).1.breaksOffAt index rest

/-- A connection that is told something at the first of events at which none of its commands breaks
off. -/
theorem whole_of_breaksOffAt {world : World} {index : Nat} {event : Event} {rest : List Event}
    (spared : world.breaksOffAt index (event :: rest) = false) {session : Session} {input : Input}
    (told : world.inputTo? index event = some (session, input)) :
    ∀ reason, (session.respond input).2 = some reason → reason.isExecution = false := by
  intro reason aborted
  rw [breaksOffAt, told, Bool.or_eq_false_iff] at spared
  have now := spared.1
  dsimp only at now
  rw [aborted] at now
  exact now

/-- Where no command breaks off, none of a single connection does. -/
theorem breaksOffAt_of_unbroken {world : World} {events : List Event}
    (unbroken : world.unbroken events = true) (index : Nat) :
    world.breaksOffAt index events = false := by
  induction events generalizing world with
  | nil => rfl
  | cons event rest inductionHypothesis =>
      rw [World.unbroken, Bool.and_eq_true, Bool.not_eq_true'] at unbroken
      rw [breaksOffAt, Bool.or_eq_false_iff]
      refine ⟨?_, inductionHypothesis unbroken.2⟩
      split
      · rfl
      · rename_i told
        rw [Option.any_eq_false]
        exact whole_of_told told unbroken.1

end World

/-! ## One reaction -/

/-- The queue balances what a session took in and what it answered. -/
structure Session.Balanced (before after : Session) (taken : List Waiting)
    (given : List Answer) : Prop where
  listening : after.connection.listening = true
  written : after.connection.written = before.connection.written ++ given.map Answer.frame
  waiting : after.connection.isOpen = true →
    before.connection.isOpen = true
      ∧ before.connection.queue.map Waiting.asArrived ++ taken
        = given.map Answer.arrival ++ after.connection.queue.map Waiting.asArrived
  cutOff : after.connection.isOpen = false →
    given.map Answer.arrival <+: before.connection.queue.map Waiting.asArrived ++ taken

namespace Session

theorem Advances.written_of_listening {before after : Session} {replies : List Frame}
    {submitted : List Job} (advances : before.Advances after replies submitted)
    (listening : before.connection.listening = true) :
    after.connection.written = before.connection.written ++ replies := by
  rw [advances.written, if_pos listening]

theorem balanced_of_closed {before after : Session} {taken : List Waiting}
    (advances : before.Advances after [] []) (listening : before.connection.listening = true)
    (isClosed : after.connection.isOpen = false) : before.Balanced after taken [] := by
  refine ⟨advances.listening.trans listening, ?_, fun isOpen => ?_, fun _ => List.nil_prefix⟩
  · rw [advances.written_of_listening listening]
    rfl
  · exact absurd isOpen (by simp [isClosed])

/-- Draining answers a queue from the front: `begun` has answered what stood before it. -/
theorem Drained.balanced {before begun : Session} {progress : Progress} {queue : List Waiting}
    {taken : List Waiting} (given : List Answer) (drained : Drained queue begun progress)
    (whole : ∀ reason, progress.2 = some reason → reason.isExecution = false)
    (advances : before.Advances begun (given.map Answer.frame) [])
    (listening : before.connection.listening = true)
    (wasOpen : before.connection.isOpen = true)
    (account : before.connection.queue.map Waiting.asArrived ++ taken =
      given.map Answer.arrival ++ queue.map Waiting.asArrived) :
    before.Balanced progress.1 taken (given ++ drainAnswers queue begun) := by
  have tracked : ∀ (next : Session) (submitted : List Job),
      begun.Advances next ((drainAnswers queue begun).map Answer.frame) submitted →
      next.connection.listening = true ∧
        next.connection.written =
          before.connection.written ++ (given ++ drainAnswers queue begun).map Answer.frame := by
    intro next submitted later
    have total := advances.trans later
    refine ⟨total.listening.trans listening, ?_⟩
    rw [total.written_of_listening listening, List.map_append]
  cases drained with
  | settled answered later isOpen left =>
      obtain ⟨hears, wrote⟩ := tracked _ _ later
      refine ⟨hears, wrote, fun _ => ⟨wasOpen, ?_⟩, fun isClosed => ?_⟩
      · rw [account, left, List.map_append, answered]
        exact (List.append_nil _).symm
      · exact absurd isClosed (by simp [isOpen])
  | inFlight done work split deferred answered later isOpen left =>
      obtain ⟨hears, wrote⟩ := tracked _ _ later
      refine ⟨hears, wrote, fun _ => ⟨wasOpen, ?_⟩, fun isClosed => ?_⟩
      · rw [account, left, List.map_append, answered, split, List.map_append, List.append_assoc]
        rfl
      · exact absurd isClosed (by simp [isOpen])
  | closed answered later isClosed left =>
      obtain ⟨hears, wrote⟩ := tracked _ _ later
      refine ⟨hears, wrote, fun isOpen => ?_, fun _ => ?_⟩
      · exact absurd isOpen (by simp [isClosed])
      · rw [account, List.map_append]
        exact (List.prefix_append_right_inj _).mpr answered
  | aborted done split atOnce execution answered later isOpen left =>
      exact absurd (whole _ rfl) (by simp [execution])

theorem Reaction.balanced {session : Session} {input : Input} {progress : Progress}
    (reaction : Reaction session input progress) (attached : input ≠ .detach)
    (whole : ∀ reason, progress.2 = some reason → reason.isExecution = false)
    (listening : session.connection.listening = true) :
    session.Balanced progress.1 ((session.arrival? input).map Waiting.asArrived).toList
      (session.answersTo input) := by
  cases reaction with
  | closed nothing silent advances isClosed queue =>
      rw [silent]
      exact balanced_of_closed advances listening isClosed
  | outOfTurn told isOpen missing silent advances isClosed queue =>
      rw [silent]
      exact balanced_of_closed advances listening isClosed
  | waits arrival arrives busy silent advances isOpen queue =>
      have wasOpen := isOpen_of_arrival? arrives
      refine ⟨advances.listening.trans listening, ?_, fun _ => ⟨wasOpen, ?_⟩, fun isClosed => ?_⟩
      · rw [advances.written_of_listening listening, silent]
        rfl
      · rw [arrives, silent, queue, List.map_append]
        rfl
      · exact absurd isClosed (by simp [isOpen])
  | taken arrival arrives idle answers advances isOpen =>
      have wasOpen := isOpen_of_arrival? arrives
      rw [answers, arrives]
      refine (drained_drain _ isOpen).balanced [] whole advances listening wasOpen ?_
      rw [idle]
      rfl
  | @resumed begun command rest frame result told wasOpen head answers advances isOpen =>
      have nothing : session.arrival? input = none := by
        rw [told]
        exact if_pos wasOpen
      rw [answers, nothing]
      refine (drained_drain rest isOpen).balanced [⟨(Waiting.command command).asArrived, frame⟩]
        whole advances listening wasOpen ?_
      rw [head]
      exact List.append_nil _
  | detached told => exact absurd told attached

end Session

/-! ## Runs -/

/-- What a connection is, next to the account of what it took in and what it answered. -/
structure Connection.Accounted (connection : Connection) (taken : List Waiting)
    (given : List Answer) : Prop where
  listening : connection.listening = true
  written : connection.written = given.map Answer.frame
  waiting : connection.isOpen = true →
    taken = given.map Answer.arrival ++ connection.queue.map Waiting.asArrived
  cutOff : connection.isOpen = false → given.map Answer.arrival <+: taken

theorem Connection.accounted_new (index : Nat) (authenticated : Bool) :
    (Connection.new index authenticated).Accounted [] [] :=
  ⟨rfl, rfl, fun _ => rfl, nofun⟩

/-- One reaction continues the account. -/
theorem Connection.Accounted.react {session : Session} {input : Input} {taken : List Waiting}
    {given : List Answer} (accounted : session.connection.Accounted taken given)
    (reaction : session.Reaction input (session.respond input)) (attached : input ≠ .detach)
    (whole : ∀ reason, (session.respond input).2 = some reason → reason.isExecution = false) :
    (session.respond input).1.connection.Accounted
      (taken ++ ((session.arrival? input).map Waiting.asArrived).toList)
      (given ++ session.answersTo input) := by
  have balanced := reaction.balanced attached whole accounted.listening
  refine ⟨balanced.listening, ?_, fun isOpen => ?_, fun isClosed => ?_⟩
  · rw [balanced.written, accounted.written, List.map_append]
  · obtain ⟨wasOpen, balance⟩ := balanced.waiting isOpen
    rw [accounted.waiting wasOpen, List.append_assoc, balance, List.map_append, List.append_assoc]
  · have added := balanced.cutOff isClosed
    rw [List.map_append]
    cases openness : session.connection.isOpen with
    | true =>
        rw [accounted.waiting openness, List.append_assoc]
        exact (List.prefix_append_right_inj _).mpr added
    | false =>
        have silent : session.answersTo input = [] := by
          unfold Session.answersTo
          rw [openness]
          rfl
        rw [silent, List.map_nil, List.append_nil]
        exact (accounted.cutOff openness).trans (List.prefix_append _ _)

namespace World

/-- A step continues the account of a connection; one that it opens begins an account. -/
theorem accounted_step {world : World} (orderly : world.Orderly) {index : Nat}
    {taken : List Waiting} {given : List Answer}
    (accounted : ∀ connection, world.connections[index]? = some connection →
      connection.Accounted taken given)
    (unborn : world.connections[index]? = none → taken = [] ∧ given = [])
    {event : Event} (attached : event ≠ .detach index)
    {rest : List Event} (spared : world.breaksOffAt index (event :: rest) = false)
    {connection : Connection} (found : (world.step event).1.connections[index]? = some connection) :
    connection.Accounted (taken ++ world.arrivals index [event])
      (given ++ world.answers index [event]) := by
  rw [arrivals, answers, arrivals, answers, List.append_nil, List.append_nil]
  cases origin_of_found found with
  | kept untold found =>
      rw [untold]
      simpa using accounted connection found
  | opened untold fresh new =>
      obtain ⟨rfl, rfl⟩ := unborn (List.getElem?_eq_none (Nat.le_of_eq fresh.symm))
      rw [untold, new]
      exact Connection.accounted_new _ _
  | told told reacts =>
      rw [told, reacts]
      exact (accounted _ (found_of_told told)).react (orderly.reaction told)
        (attached_of_told told attached) (whole_of_breaksOffAt spared told)

/-- A connection that is not there after a step has neither been told nor said anything. -/
theorem unborn_step {world : World} {index : Nat} {event : Event}
    (absent : (world.step event).1.connections[index]? = none) :
    world.connections[index]? = none ∧ world.arrivals index [event] = []
      ∧ world.answers index [event] = [] := by
  obtain ⟨unborn, untold⟩ := untold_of_absent absent
  refine ⟨unborn, ?_, ?_⟩
  · rw [arrivals, untold]
    rfl
  · rw [answers, untold]
    rfl

/-- The account of a connection continues along a run in which none of its commands breaks off. -/
theorem accounted_of_spared {world : World} (orderly : world.Orderly) {index : Nat}
    {taken : List Waiting} {given : List Answer}
    (accounted : ∀ connection, world.connections[index]? = some connection →
      connection.Accounted taken given)
    (unborn : world.connections[index]? = none → taken = [] ∧ given = [])
    {events : List Event} (attached : .detach index ∉ events)
    (spared : world.breaksOffAt index events = false) {connection : Connection}
    (found : (world.after events).connections[index]? = some connection) :
    connection.Accounted (taken ++ world.arrivals index events)
      (given ++ world.answers index events) := by
  induction events generalizing world taken given with
  | nil =>
      rw [arrivals, answers, List.append_nil, List.append_nil]
      exact accounted connection found
  | cons event rest inductionHypothesis =>
      have later : (world.step event).1.breaksOffAt index rest = false := by
        rw [breaksOffAt, Bool.or_eq_false_iff] at spared
        exact spared.2
      obtain ⟨attachedNow, attachedLater⟩ := List.ne_and_not_mem_of_not_mem_cons attached
      rw [arrivals_cons, answers_cons, ← List.append_assoc, ← List.append_assoc]
      apply inductionHypothesis (orderly.step event)
      · intro connection found
        exact accounted_step orderly accounted unborn (Ne.symm attachedNow) spared found
      · intro absent
        obtain ⟨before, tookNothing, gaveNothing⟩ := unborn_step absent
        obtain ⟨rfl, rfl⟩ := unborn before
        exact ⟨tookNothing, gaveNothing⟩
      · exact attachedLater
      · exact later
      · exact found

/-- The account of a connection continues along a run in which no command breaks off. -/
theorem accounted_after {world : World} (orderly : world.Orderly) {index : Nat}
    {taken : List Waiting} {given : List Answer}
    (accounted : ∀ connection, world.connections[index]? = some connection →
      connection.Accounted taken given)
    (unborn : world.connections[index]? = none → taken = [] ∧ given = [])
    {events : List Event} (attached : .detach index ∉ events)
    (unbroken : world.unbroken events = true) {connection : Connection}
    (found : (world.after events).connections[index]? = some connection) :
    connection.Accounted (taken ++ world.arrivals index events)
      (given ++ world.answers index events) :=
  accounted_of_spared orderly accounted unborn attached (breaksOffAt_of_unbroken unbroken index)
    found

/-- Replies leave in the order of arrival, whatever the order of arrivals, jobs, completions and
ends of connections: the frame at each position answers the arrival at that position. What an open
connection has not answered is what waits in its queue; a closed one has answered a beginning of
what it took in. -/
theorem written_in_order_of_arrival (services : Services) {events : List Event} {index : Nat}
    (attached : .detach index ∉ events) (unbroken : unbroken ⟨services, []⟩ events = true)
    {connection : Connection}
    (found : (after ⟨services, []⟩ events).connections[index]? = some connection) :
    let taken := arrivals ⟨services, []⟩ index events
    let given := answers ⟨services, []⟩ index events
    (∀ position : Nat, connection.written[position]? = given[position]?.map Answer.frame
      ∧ ∀ answer : Answer, given[position]? = some answer → taken[position]? = some answer.arrival)
    ∧ (connection.isOpen = true →
        connection.written.length + connection.queue.length = taken.length
          ∧ connection.queue.map Waiting.asArrived = taken.drop connection.written.length)
    ∧ (connection.isOpen = false → given.map Answer.arrival <+: taken) := by
  intro taken given
  have accounted : connection.Accounted ([] ++ taken) ([] ++ given) :=
    accounted_after (orderly_of_none services) nofun (fun _ => ⟨rfl, rfl⟩) attached unbroken found
  rw [List.nil_append, List.nil_append] at accounted
  have begins : given.map Answer.arrival <+: taken := by
    cases openness : connection.isOpen with
    | true =>
        rw [accounted.waiting openness]
        exact List.prefix_append _ _
    | false => exact accounted.cutOff openness
  have sameLength : connection.written.length = (given.map Answer.arrival).length := by
    rw [accounted.written, List.length_map, List.length_map]
  refine ⟨fun position => ⟨?_, fun answer answered => ?_⟩, fun isOpen => ⟨?_, ?_⟩, fun _ => begins⟩
  · rw [accounted.written, List.getElem?_map]
  · have mapped : (given.map Answer.arrival)[position]? = some answer.arrival := by
      rw [List.getElem?_map, answered]
      rfl
    obtain ⟨rest, whole⟩ := begins
    rw [← whole, List.getElem?_append_left (List.getElem?_eq_some_iff.mp mapped).1]
    exact mapped
  · rw [accounted.waiting isOpen, List.length_append, sameLength]
    simp
  · rw [accounted.waiting isOpen, sameLength, List.drop_left]

/-- A ping, and a failure behind it, wait for a count of keys. All three are answered in order, and
a second count waits. -/
theorem written_in_order_behind_count :
    let start : World := ⟨Services.start none false, []⟩
    let events : List Event :=
      [.connect, .receive 0 (Command.new "DBSIZE" []), .receive 0 (Command.new "PING" []),
        .report 0 (.internal "lost"), .run 0, .receive 0 (Command.new "DBSIZE" [])]
    ∃ connection, (start.after events).connections[0]? = some connection
      ∧ connection.written.length = 3
      ∧ connection.written.length + connection.queue.length = (start.arrivals 0 events).length
      ∧ connection.written[1]? = (start.answers 0 events)[1]?.map Answer.frame := by
  refine ⟨_, rfl, rfl, ?_, ?_⟩
  · refine ((written_in_order_of_arrival (Services.start none false) ?_ rfl rfl).2.1 rfl).1
    simp
  · refine ((written_in_order_of_arrival (Services.start none false) ?_ rfl rfl).1 1).1
    simp

end World

end RespServer
