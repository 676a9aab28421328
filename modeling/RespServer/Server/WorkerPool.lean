/-!
Contract: the width of the worker pool.

Owns:
- how many jobs run at a time, and the limit on that;
- the rounds in which queued jobs run, and how many of them return;
- that each job runs in one round, whatever becomes of the others.

Does not own: the jobs of commands, whose order the events of a `World` choose, and the permits for
which they wait.
-/

namespace RespServer

inductive JobEnd where
  | returned
  /-- The job breaks off; the others are not affected. -/
  | brokeOff
deriving DecidableEq, Repr

namespace WorkerPool

/-- At least one job runs at a time, whatever number of workers is asked for. -/
def width (workers : Nat) : Nat :=
  max 1 workers

theorem width_pos (workers : Nat) : 0 < width workers := by
  unfold width
  omega

/-- So many jobs run at a time at most. -/
def widthLimit : Nat :=
  Nat.pow 2 61 - 1

/-- The wording of the failure to start a pool that is too wide. -/
def tooWide : String :=
  "a semaphore may not have more than MAX_PERMITS permits (" ++ toString widthLimit ++ ")"

/-- The jobs in rounds of as many as run at a time. -/
def rounds (workers : Nat) (jobs : List α) : List (List α) :=
  match jobs with
  | [] => []
  | first :: rest =>
      (first :: rest).take (width workers)
        :: rounds workers ((first :: rest).drop (width workers))
termination_by jobs.length
decreasing_by
  have := width_pos workers
  simp only [List.length_drop, List.length_cons]
  omega

def returned (workers : Nat) (jobs : List JobEnd) : Nat :=
  (rounds workers jobs).foldl (fun total round => total + round.count .returned) 0

/-- Starts a pool and runs jobs. Returns how many of them return; a pool that is too wide does not
start. -/
def run (workers : Nat) (jobs : List JobEnd) : Except String Nat :=
  if widthLimit < width workers then .error tooWide else .ok (returned workers jobs)

/-! ## The rounds -/

/-- Every job runs in one round, in the order of submission. -/
theorem flatten_rounds (workers : Nat) (jobs : List α) : (rounds workers jobs).flatten = jobs := by
  fun_induction rounds workers jobs with
  | case1 => rfl
  | case2 first rest inductionHypothesis =>
      rw [List.flatten_cons, inductionHypothesis, List.take_append_drop]

/-- No round is idle, and none is wider than the pool. -/
theorem length_of_mem_rounds {workers : Nat} {jobs round : List α}
    (found : round ∈ rounds workers jobs) : 0 < round.length ∧ round.length ≤ width workers := by
  fun_induction rounds workers jobs with
  | case1 => cases found
  | case2 first rest inductionHypothesis =>
      rcases List.mem_cons.mp found with rfl | later
      · have wide := width_pos workers
        rw [List.length_take, List.length_cons]
        omega
      · exact inductionHypothesis later

theorem foldl_count (rounds : List (List JobEnd)) (total : Nat) :
    rounds.foldl (fun total round => total + round.count .returned) total =
      total + rounds.flatten.count .returned := by
  induction rounds generalizing total with
  | nil => rfl
  | cons round rest inductionHypothesis =>
      rw [List.foldl_cons, inductionHypothesis, List.flatten_cons, List.count_append,
        Nat.add_assoc]

/-- The width of the pool and the jobs that break off are of no account for the others: each job
that returns is counted. -/
theorem returned_eq_count (workers : Nat) (jobs : List JobEnd) :
    returned workers jobs = jobs.count .returned := by
  rw [returned, foldl_count, flatten_rounds, Nat.zero_add]

/-- A pool starts unless it is too wide, and then runs all jobs. -/
theorem run_eq_ok_iff {workers count : Nat} {jobs : List JobEnd} :
    run workers jobs = .ok count ↔ width workers ≤ widthLimit ∧ count = jobs.count .returned := by
  unfold run
  rw [returned_eq_count]
  split
  · rename_i beyond
    constructor
    · exact nofun
    · rintro ⟨within, -⟩
      exact absurd within (Nat.not_le.mpr beyond)
  · rename_i within
    rw [Except.ok.injEq, eq_comm]
    exact (and_iff_right (Nat.not_lt.mp within)).symm

end WorkerPool

end RespServer
