import RespServer.Server.Execution

/-!
Contract: searches of the glob matcher that never end, and the deferred work that waits for one.

Owns:
- `advance?`, a search some steps later, and that a search which comes back to where it was never
  ends;
- that deferred work reports unless it lists keys with a pattern whose search never ends for one;
- a pattern and a text for which the search never ends.

Does not own: which patterns have this fault.
-/

namespace RespServer

namespace Glob

section Cycles

variable {pattern text : Array UInt8} {negated : Bool}

/-- The search after so many steps; none if it has stopped before. -/
def advance? (pattern text : Array UInt8) (negated : Bool) : (steps : Nat) → Search → Option Search
  | 0, search => some search
  | steps + 1, search =>
      match step pattern text negated search with
      | .stop _ => none
      | .goOn next => advance? pattern text negated steps next

/-- A bound is used up step by step. -/
theorem run_add {steps : Nat} {search reached : Search}
    (goesOn : advance? pattern text negated steps search = some reached) (left : Nat) :
    run pattern text negated (steps + left) search = run pattern text negated left reached := by
  induction steps generalizing search with
  | zero =>
      cases goesOn
      rw [Nat.zero_add]
  | succ steps inductionHypothesis =>
      rw [advance?] at goesOn
      rw [Nat.add_right_comm, run]
      cases stepped : step pattern text negated search with
      | stop matched =>
          rw [stepped] at goesOn
          cases goesOn
      | goOn next =>
          rw [stepped] at goesOn
          exact inductionHypothesis goesOn

/-- A search that goes on for so many steps does not end within fewer. -/
theorem run_of_short {steps bound : Nat} (short : bound ≤ steps) {search reached : Search}
    (goesOn : advance? pattern text negated steps search = some reached) :
    run pattern text negated bound search = none := by
  induction bound generalizing steps search with
  | zero => rfl
  | succ bound inductionHypothesis =>
      cases steps with
      | zero => exact absurd short (Nat.not_succ_le_zero bound)
      | succ steps =>
          rw [advance?] at goesOn
          rw [run]
          cases stepped : step pattern text negated search with
          | stop matched =>
              rw [stepped] at goesOn
              cases goesOn
          | goOn next =>
              rw [stepped] at goesOn
              exact inductionHypothesis (Nat.le_of_succ_le_succ short) goesOn

/-- A search that comes back to where it was does not end within any bound. -/
theorem run_of_cycle {steps : Nat} {search : Search}
    (returns : advance? pattern text negated (steps + 1) search = some search) (bound : Nat) :
    run pattern text negated bound search = none := by
  induction bound using Nat.strongRecOn with
  | ind bound inductionHypothesis =>
      by_cases short : bound ≤ steps + 1
      · exact run_of_short short returns
      · obtain ⟨left, rfl⟩ := Nat.exists_eq_add_of_le (Nat.le_of_not_le short)
        rw [run_add returns left]
        exact inductionHypothesis left (by omega)

/-- The same of a search that leads to such a cycle. -/
theorem run_of_lasso {lead steps : Nat} {search reached : Search}
    (leads : advance? pattern text negated lead search = some reached)
    (returns : advance? pattern text negated (steps + 1) reached = some reached) (bound : Nat) :
    run pattern text negated bound search = none := by
  by_cases short : bound ≤ lead
  · exact run_of_short short leads
  · obtain ⟨left, rfl⟩ := Nat.exists_eq_add_of_le (Nat.le_of_not_le short)
    rw [run_add leads left]
    exact run_of_cycle returns left

end Cycles

/-- Two alternatives with double stars. Behind the slash that the first has matched, the second
goes back to the star of the first. -/
def endlessPattern : String :=
  "\x7b/**/,**,\x7d"

/-- After five steps of this search, the next seven repeat themselves for ever. -/
theorem matches?_endlessPattern :
    matches? (Bytes.ofText endlessPattern) (Bytes.ofText "/a") = none := by
  have pattern : Bytes.ofText endlessPattern = [123, 47, 42, 42, 47, 44, 42, 42, 44, 125] := by
    decide
  have key : Bytes.ofText "/a" = [47, 97] := by decide
  have leads : advance? #[123, 47, 42, 42, 47, 44, 42, 42, 44, 125] #[47, 97] false 5
      ⟨⟨0, 0, Star.none, Star.none⟩, [], 0⟩ =
        some ⟨⟨2, 4, ⟨2, 3⟩, ⟨2, 3⟩⟩, [⟨0, 0, Star.none, Star.none⟩], 0⟩ := by cbv
  have returns : advance? #[123, 47, 42, 42, 47, 44, 42, 42, 44, 125] #[47, 97] false 7
      ⟨⟨2, 4, ⟨2, 3⟩, ⟨2, 3⟩⟩, [⟨0, 0, Star.none, Star.none⟩], 0⟩ =
        some ⟨⟨2, 4, ⟨2, 3⟩, ⟨2, 3⟩⟩, [⟨0, 0, Star.none, Star.none⟩], 0⟩ := by cbv
  rw [pattern, key]
  unfold matches?
  exact run_of_lasso leads returns _

end Glob

/-! ## Deferred work -/

/-- Listing keys has no end if the search has none for one of them. -/
theorem matchingKeys?_eq_none_iff {pattern : Bytes} {keys : List String} :
    matchingKeys? pattern keys = none ↔
      ∃ key ∈ keys, Glob.matches? pattern (Bytes.ofText key) = none := by
  induction keys with
  | nil => simp [matchingKeys?]
  | cons key rest inductionHypothesis =>
      rw [matchingKeys?]
      cases found : Glob.matches? pattern (Bytes.ofText key) with
      | none => simp [found]
      | some matched => simp [found, inductionHypothesis]

namespace Work

/-- Whether the work is a search that does not end. -/
def IsEndless (work : Work) (store : Store) : Prop :=
  ∃ pattern, work = .listKeys pattern ∧
    ∃ key ∈ store.keys, Glob.matches? (Bytes.ofText pattern) (Bytes.ofText key) = none

/-- What deferred work comes to: a reply, or no end. -/
inductive Conclusion (work : Work) (store : Store) : WorkResult × Store → Prop where
  | replied {frame : Frame} {after : Store} (ends : ¬work.IsEndless store)
      (plain : frame.isError = false) : Conclusion work store (.reply frame, after)
  | endless (endless : work.IsEndless store) :
      Conclusion work store (.aborted .endlessSearch, store)

theorem conclusion_run (work : Work) (store : Store) :
    Conclusion work store (work.run store) := by
  cases work with
  | listKeys pattern =>
      have endless : (Work.listKeys pattern).IsEndless store ↔
          matchingKeys? (Bytes.ofText pattern) store.keys = none := by
        rw [matchingKeys?_eq_none_iff]
        constructor
        · rintro ⟨_, same, found⟩
          cases same
          exact found
        · exact fun found => ⟨pattern, rfl, found⟩
      unfold run
      dsimp only
      cases listed : matchingKeys? (Bytes.ofText pattern) store.keys with
      | none => exact .endless (endless.mpr listed)
      | some keys => exact .replied (fun never => by simp [endless.mp never] at listed) rfl
  | delete | readEach | storeEach | countKeys | clear =>
      refine .replied ?_ rfl
      rintro ⟨pattern, same, -⟩
      cases same

/-- Deferred work reports unless its search does not end. -/
theorem report_run_eq_none_iff {work : Work} {store : Store} :
    (work.run store).1.report = none ↔ work.IsEndless store := by
  have conclusion := conclusion_run work store
  generalize work.run store = result at conclusion
  cases conclusion with
  | replied ends plain => simp [WorkResult.report, ends]
  | endless endless => simp [WorkResult.report, endless]

end Work

end RespServer
