import RespServer.Proofs.Delivery

/-!
Contract: the deferred command at the head of a queue, and the job that does its work.

Owns:
- `Fits`, how the queue of a connection and its jobs fit together, and that reactions keep it;
- `Stranded`, a queue that waits for nothing, and the reactions that leave one.

Does not own: the pool with the jobs of all connections (`Proofs.Pool`).

A queue waits because its head is in flight. Only a command that breaks off leaves a queue behind
without a head in flight: a completion took it from the queue, and nobody takes the next.
-/

namespace RespServer

/-! ## Queue and jobs -/

/-- How the queue of a connection and its jobs fit together. -/
inductive Fits (connection : Connection) (jobs : List Job) : Prop where
  | closed (isClosed : connection.isOpen = false) (few : jobs.length ≤ 1) : Fits connection jobs
  | inFlight {command : Command} {rest : List Waiting} {work : Work}
      (isOpen : connection.isOpen = true) (queue : connection.queue = .command command :: rest)
      (started : command.started = true) (deferred : command.kind.isDeferred = true)
      (unstarted : ∀ waiting ∈ rest, waiting.startedKind? = none)
      (job : jobs = [⟨connection.index, command.id, work⟩]) : Fits connection jobs
  | resting (isOpen : connection.isOpen = true)
      (unstarted : ∀ waiting ∈ connection.queue, waiting.startedKind? = none)
      (none : jobs = []) : Fits connection jobs

theorem fits_new (index : Nat) (authenticated : Bool) :
    Fits (Connection.new index authenticated) [] :=
  .resting rfl nofun rfl

section Fitting

variable {connection : Connection} {jobs : List Job}

theorem Fits.few (fits : Fits connection jobs) : jobs.length ≤ 1 := by
  cases fits with
  | closed isClosed few => exact few
  | inFlight isOpen queue started deferred unstarted job =>
      rw [job]
      exact Nat.le_refl 1
  | resting isOpen unstarted none =>
      rw [none]
      exact Nat.zero_le 1

/-- The job of an open connection is the one of the command at the head of its queue, and nothing
else in the queue has been started. -/
theorem Fits.head_of_job (fits : Fits connection jobs) (isOpen : connection.isOpen = true)
    {job : Job} (owned : job ∈ jobs) :
    ∃ command rest, connection.queue = .command command :: rest ∧ command.id = job.command
      ∧ command.kind.isDeferred = true ∧ command.started = true
      ∧ ∀ waiting ∈ rest, waiting.startedKind? = none := by
  cases fits with
  | closed isClosed few => exact absurd isOpen (by simp [isClosed])
  | @inFlight command rest work wasOpen queue started deferred unstarted only =>
      rw [only] at owned
      have same : command.id = job.command := by
        rw [List.mem_singleton.mp owned]
      exact ⟨command, rest, queue, same, deferred, started, unstarted⟩
  | resting wasOpen unstarted none =>
      rw [none] at owned
      cases owned

theorem Fits.noJobs_of_idle (fits : Fits connection jobs) (isOpen : connection.isOpen = true)
    (idle : connection.queue = []) : jobs = [] := by
  apply List.eq_nil_iff_forall_not_mem.mpr
  intro job owned
  obtain ⟨command, rest, queue, -⟩ := fits.head_of_job isOpen owned
  rw [idle] at queue
  cases queue

end Fitting

/-- The jobs that belong to a connection. -/
def Services.jobsOf (services : Services) (index : Nat) : List Job :=
  services.jobs.filter fun job => job.connection = index

theorem Services.jobsOf_append {services next : Services} {submitted : List Job} {index : Nat}
    (jobs : next.jobs = services.jobs ++ submitted)
    (own : ∀ job ∈ submitted, job.connection = index) :
    next.jobsOf index = services.jobsOf index ++ submitted := by
  have kept : submitted.filter (fun job => job.connection = index) = submitted := by
    apply List.filter_eq_self.mpr
    intro job member
    exact decide_eq_true (own job member)
  unfold jobsOf
  rw [jobs, List.filter_append, kept]

theorem Services.jobsOf_append_other {services next : Services} {submitted : List Job}
    {index : Nat} (jobs : next.jobs = services.jobs ++ submitted)
    (foreign : ∀ job ∈ submitted, job.connection ≠ index) :
    next.jobsOf index = services.jobsOf index := by
  have dropped : submitted.filter (fun job => job.connection = index) = [] := by
    apply List.filter_eq_nil_iff.mpr
    intro job member
    simpa using foreign job member
  unfold jobsOf
  rw [jobs, List.filter_append, dropped, List.append_nil]

namespace Session

/-- The jobs of the connection of a session. -/
def ownJobs (session : Session) : List Job :=
  session.services.jobsOf session.connection.index

theorem Advances.ownJobs {before after : Session} {replies : List Frame} {submitted : List Job}
    (advances : before.Advances after replies submitted)
    (own : ∀ job ∈ submitted, job.connection = before.connection.index) :
    after.ownJobs = before.ownJobs ++ submitted := by
  unfold Session.ownJobs
  rw [advances.index]
  exact Services.jobsOf_append advances.jobs own

theorem Advances.sameJobs {before after : Session} {replies : List Frame}
    (advances : before.Advances after replies []) : after.ownJobs = before.ownJobs := by
  rw [advances.ownJobs nofun, List.append_nil]

theorem Drained.inTurn {queue : List Waiting} {begun : Session} {progress : Progress}
    (drained : Drained queue begun progress) (id : CommandId) (head : String) :
    progress.2 ≠ some (.outOfTurn id head) := by
  cases drained with
  | settled | inFlight | closed => exact nofun
  | aborted done split atOnce execution answered advances isOpen left =>
      intro same
      cases same
      cases execution

/-- A drained queue has a head in flight, unless a command broke off. -/
theorem Drained.fits {queue : List Waiting} {begun : Session} {progress : Progress}
    (drained : Drained queue begun progress)
    (unstarted : ∀ waiting ∈ queue, waiting.startedKind? = none) (none : begun.ownJobs = []) :
    Fits progress.1.connection progress.1.ownJobs := by
  cases drained with
  | settled answered advances isOpen left =>
      apply Fits.resting isOpen
      · rw [left]
        exact nofun
      · exact advances.sameJobs.trans none
  | inFlight done work split deferred answered advances isOpen left =>
      apply Fits.inFlight isOpen left rfl deferred
      · intro waiting member
        apply unstarted
        rw [split]
        exact List.mem_append_right _ (List.mem_cons_of_mem _ member)
      · rw [advances.index, advances.ownJobs, none]
        · rfl
        · intro job submitted
          rw [List.mem_singleton.mp submitted]
  | closed answered advances isClosed left =>
      apply Fits.closed isClosed
      rw [advances.sameJobs, none]
      exact Nat.zero_le 1
  | aborted done split atOnce execution answered advances isOpen left =>
      apply Fits.resting isOpen
      · intro waiting member
        apply unstarted
        rw [split]
        rw [left] at member
        exact List.mem_append_right _ (List.mem_cons_of_mem _ member)
      · exact advances.sameJobs.trans none

/-- A command that arrives has not been started. -/
theorem startedKind?_of_arrival? {session : Session} {input : Input} {arrival : Waiting}
    (arrives : session.arrival? input = some arrival)
    (fresh : ∀ arrived, input = .command arrived → arrived.started = false) :
    arrival.startedKind? = none := by
  have isOpen := isOpen_of_arrival? arrives
  unfold arrival? at arrives
  rw [if_pos isOpen] at arrives
  cases input with
  | command arrived =>
      cases arrives
      have unstarted : arrived.started = false := fresh arrived rfl
      rw [Waiting.startedKind?, numbered, unstarted]
      rfl
  | failure cause =>
      obtain ⟨frame, -, rfl⟩ := Option.map_eq_some_iff.mp arrives
      rfl
  | completion | close | detach => cases arrives

/-- A connection that is told anything but a completion. -/
theorem Reaction.fits_of_arrival {session : Session} {input : Input} {progress : Progress}
    (reaction : Reaction session input progress) (fits : Fits session.connection session.ownJobs)
    (fresh : ∀ arrived, input = .command arrived → arrived.started = false)
    (noCompletion : ∀ id result, input ≠ .completion id result) :
    Fits progress.1.connection progress.1.ownJobs := by
  cases reaction with
  | closed nothing silent advances isClosed queue =>
      apply Fits.closed isClosed
      rw [advances.sameJobs]
      exact fits.few
  | outOfTurn told isOpen missing silent advances isClosed queue =>
      exact absurd told (noCompletion _ _)
  | waits arrival arrives busy silent advances isOpen queue =>
      have unstarted : ∀ waiting ∈ [arrival], waiting.startedKind? = none :=
        List.forall_mem_singleton.mpr (startedKind?_of_arrival? arrives fresh)
      have wasOpen := isOpen_of_arrival? arrives
      rw [advances.sameJobs]
      cases fits with
      | closed isClosed few => exact absurd wasOpen (by simp [isClosed])
      | inFlight _ before started deferred behind job =>
          rw [before, List.cons_append] at queue
          apply Fits.inFlight isOpen queue started deferred
          · exact List.forall_mem_append.mpr ⟨behind, unstarted⟩
          · rw [advances.index]
            exact job
      | resting _ before none =>
          apply Fits.resting isOpen _ none
          rw [queue]
          exact List.forall_mem_append.mpr ⟨before, unstarted⟩
  | taken arrival arrives idle answers advances isOpen =>
      have unstarted := startedKind?_of_arrival? arrives fresh
      have noJobs : session.ownJobs = [] := fits.noJobs_of_idle (isOpen_of_arrival? arrives) idle
      apply (drained_drain _ isOpen).fits
      · exact List.forall_mem_singleton.mpr unstarted
      · exact advances.sameJobs.trans noJobs
  | resumed told wasOpen head answers advances isOpen => exact absurd told (noCompletion _ _)
  | detached told =>
      cases fits with
      | closed isClosed few => exact .closed isClosed few
      | inFlight wasOpen before started deferred behind job =>
          exact .inFlight wasOpen before started deferred behind job
      | resting wasOpen before none => exact .resting wasOpen before none

theorem arrival?_completion (session : Session) (id : CommandId)
    (result : Except Failure Frame) : session.arrival? (.completion id result) = none :=
  ite_self none

/-- A connection that is told the completion of its only job. The job has left the pool. -/
theorem Reaction.fits_of_completion {session : Session} {job : Job}
    {result : Except Failure Frame} {progress : Progress}
    (reaction : Reaction session (.completion job.command result) progress)
    (fits : Fits session.connection [job]) (noJobs : session.ownJobs = []) :
    Fits progress.1.connection progress.1.ownJobs := by
  cases reaction with
  | closed nothing silent advances isClosed queue =>
      apply Fits.closed isClosed
      rw [advances.sameJobs, noJobs]
      exact Nat.zero_le 1
  | outOfTurn told isOpen missing silent advances isClosed queue =>
      apply Fits.closed isClosed
      rw [advances.sameJobs, noJobs]
      exact Nat.zero_le 1
  | waits arrival arrives | taken arrival arrives =>
      rw [arrival?_completion] at arrives
      cases arrives
  | resumed told wasOpen head answers advances isOpen =>
      obtain ⟨command, rest, queue, -, -, -, behind⟩ :=
        fits.head_of_job wasOpen (List.mem_singleton_self job)
      rw [head] at queue
      cases queue
      exact (drained_drain _ isOpen).fits behind (advances.sameJobs.trans noJobs)
  | detached told => cases told

/-! ## Queues that wait for nothing -/

/-- Whether a step breaks off and leaves a queue behind. -/
def leavesBehind (progress : Progress) : Bool :=
  progress.2.isSome && progress.1.connection.isOpen && !progress.1.connection.queue.isEmpty

/-- An open connection is told something, or it is closed for good. -/
theorem Reaction.wasOpen {session : Session} {input : Input} {progress : Progress}
    (reaction : Reaction session input progress)
    (isOpen : progress.1.connection.isOpen = true) : session.connection.isOpen = true := by
  cases reaction with
  | closed nothing silent advances isClosed queue => exact absurd isOpen (by simp [isClosed])
  | outOfTurn told wasOpen missing silent advances isClosed queue => exact wasOpen
  | waits arrival arrives busy silent advances stillOpen queue => exact isOpen_of_arrival? arrives
  | taken arrival arrives idle answers advances stillOpen => exact isOpen_of_arrival? arrives
  | resumed told wasOpen head answers advances stillOpen => exact wasOpen
  | detached told => exact isOpen

end Session

/-- An open connection whose queue waits although no job of it is left. -/
def Stranded (connection : Connection) (jobs : List Job) : Prop :=
  connection.isOpen = true ∧ connection.queue ≠ [] ∧ jobs = []

theorem not_stranded_of_closed {connection : Connection} {jobs : List Job}
    (isClosed : connection.isOpen = false) : ¬ Stranded connection jobs := by
  rintro ⟨isOpen, -⟩
  exact absurd isOpen (by simp [isClosed])

namespace Session

/-- Draining strands a queue where it breaks off and leaves one behind. -/
theorem Drained.stranded_iff {queue : List Waiting} {begun : Session} {progress : Progress}
    (drained : Drained queue begun progress) (noJobs : begun.ownJobs = []) :
    Stranded progress.1.connection progress.1.ownJobs ↔ leavesBehind progress = true := by
  cases drained with
  | settled answered advances isOpen left =>
      constructor
      · rintro ⟨-, waits, -⟩
        exact absurd left waits
      · exact nofun
  | inFlight done work split deferred answered advances isOpen left =>
      constructor
      · rintro ⟨-, -, empty⟩
        rw [advances.ownJobs, noJobs] at empty
        · cases empty
        · intro job submitted
          rw [List.mem_singleton.mp submitted]
      · exact nofun
  | closed answered advances isClosed left =>
      constructor
      · intro stranded
        exact absurd stranded (not_stranded_of_closed isClosed)
      · exact nofun
  | aborted done split atOnce execution answered advances isOpen left =>
      have empty := advances.sameJobs.trans noJobs
      constructor
      · rintro ⟨-, waits, -⟩
        simp [leavesBehind, isOpen, waits]
      · intro leaves
        simp only [leavesBehind, Bool.and_eq_true, Bool.not_eq_true', List.isEmpty_eq_false_iff]
          at leaves
        exact ⟨isOpen, leaves.2, empty⟩

/-- What is told that is no completion strands a queue only where a command breaks off. -/
theorem Reaction.stranded_of_arrival {session : Session} {input : Input} {progress : Progress}
    (reaction : Reaction session input progress) (fits : Fits session.connection session.ownJobs)
    (noCompletion : ∀ id result, input ≠ .completion id result) :
    Stranded progress.1.connection progress.1.ownJobs ↔
      Stranded session.connection session.ownJobs ∧ progress.1.connection.isOpen = true
        ∨ leavesBehind progress = true := by
  cases reaction with
  | closed nothing silent advances isClosed queue =>
      constructor
      · intro stranded
        exact absurd stranded (not_stranded_of_closed isClosed)
      · rintro (⟨-, isOpen⟩ | leaves)
        · exact absurd isOpen (by simp [isClosed])
        · cases leaves
  | outOfTurn told isOpen missing silent advances isClosed queue =>
      exact absurd told (noCompletion _ _)
  | waits arrival arrives busy silent advances isOpen queue =>
      have sameJobs := advances.sameJobs
      constructor
      · rintro ⟨-, -, empty⟩
        rw [sameJobs] at empty
        exact Or.inl ⟨⟨isOpen_of_arrival? arrives, busy, empty⟩, isOpen⟩
      · rintro (⟨⟨-, -, empty⟩, -⟩ | leaves)
        · refine ⟨isOpen, ?_, sameJobs.trans empty⟩
          rw [queue]
          exact List.append_ne_nil_of_right_ne_nil _ nofun
        · cases leaves
  | taken arrival arrives idle answers advances isOpen =>
      have noJobs : session.ownJobs = [] := fits.noJobs_of_idle (isOpen_of_arrival? arrives) idle
      rw [(drained_drain _ isOpen).stranded_iff (advances.sameJobs.trans noJobs)]
      constructor
      · exact Or.inr
      · rintro (⟨⟨-, waits, -⟩, -⟩ | leaves)
        · exact absurd idle waits
        · exact leaves
  | resumed told wasOpen head answers advances isOpen => exact absurd told (noCompletion _ _)
  | detached told =>
      constructor
      · intro stranded
        exact Or.inl ⟨stranded, stranded.1⟩
      · rintro (⟨stranded, -⟩ | leaves)
        · exact stranded
        · cases leaves

/-- The completion of its only job strands the queue only where a command breaks off. -/
theorem Reaction.stranded_of_completion {session : Session} {job : Job}
    {result : Except Failure Frame} {progress : Progress}
    (reaction : Reaction session (.completion job.command result) progress)
    (noJobs : session.ownJobs = []) :
    Stranded progress.1.connection progress.1.ownJobs ↔ leavesBehind progress = true := by
  cases reaction with
  | closed nothing silent advances isClosed queue =>
      constructor
      · intro stranded
        exact absurd stranded (not_stranded_of_closed isClosed)
      · exact nofun
  | outOfTurn told isOpen missing silent advances isClosed queue =>
      constructor
      · intro stranded
        exact absurd stranded (not_stranded_of_closed isClosed)
      · intro leaves
        simp [leavesBehind, isClosed] at leaves
  | waits arrival arrives | taken arrival arrives =>
      rw [arrival?_completion] at arrives
      cases arrives
  | resumed told wasOpen head answers advances isOpen =>
      exact (drained_drain _ isOpen).stranded_iff (advances.sameJobs.trans noJobs)
  | detached told => cases told

end Session

end RespServer
