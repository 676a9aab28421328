import Mathlib.Data.Fintype.Pigeonhole
import Mathlib.Data.Nat.Digits.Defs
import Mathlib.Data.Nat.Digits.Lemmas
import RespServer.Proofs.EndlessSearch

/-!
Contract: the bound on the steps of a search is no restriction.

Owns:
- `Search.Within`, a search whose positions lie within its pattern and its text, and that every
  step keeps it so;
- a number for each such search, by which there are fewer of them than the bound;
- that a search beyond the bound never ends, so `matches?` answers exactly where the search ends.

Does not own: single searches without end (`Proofs.EndlessSearch`).

A step depends on nothing but the search before it. So a search that has taken more steps than there
are different searches has been somewhere twice, and goes round from there for ever.
-/

namespace RespServer.Glob

/-! ## Searches within their bounds -/

def Star.Within (pattern text : Array UInt8) (star : Star) : Prop :=
  star.pattern ≤ pattern.size ∧ star.text ≤ text.size + 1

structure Position.Within (pattern text : Array UInt8) (position : Position) : Prop where
  inText : position.text ≤ text.size
  inPattern : position.pattern ≤ pattern.size
  star : position.star.Within pattern text
  doubleStar : position.doubleStar.Within pattern text

structure Search.Within (pattern text : Array UInt8) (search : Search) : Prop where
  position : search.position.Within pattern text
  braces : ∀ outer ∈ search.braces, outer.Within pattern text
  depth : search.braces.length ≤ depthLimit
  longest : search.longest ≤ text.size

/-- If the search goes on, then within its bounds. -/
def Step.Within (pattern text : Array UInt8) : Step → Prop
  | .goOn search => search.Within pattern text
  | .stop _ => True

def BraceEnd.Within (pattern : Array UInt8) : BraceEnd → Prop
  | .unclosed => True
  | .comma index | .closed index => index ≤ pattern.size

section Bounds

variable {pattern text : Array UInt8} {negated : Bool} {search : Search}

theorem within_none : Star.none.Within pattern text :=
  ⟨Nat.zero_le _, Nat.zero_le _⟩

theorem lt_of_getElem? {octets : Array UInt8} {index : Nat} {octet : UInt8}
    (present : octets[index]? = some octet) : index < octets.size :=
  (Array.getElem?_eq_some_iff.mp present).1

/-! ### Parts of patterns -/

theorem skipDoubleStars_le (index : Nat) (inside : index ≤ pattern.size) :
    skipDoubleStars pattern index ≤ pattern.size := by
  induction index using skipDoubleStars.induct pattern with
  | case1 index repeated inductionHypothesis =>
      have third := lt_of_getElem? repeated.2.2
      rw [skipDoubleStars, if_pos repeated]
      exact inductionHypothesis (by omega)
  | case2 index different =>
      rw [skipDoubleStars, if_neg different]
      exact inside

theorem lt_of_literal? {index last : Nat} {octet value : UInt8} (inside : index < pattern.size)
    (read : literal? pattern index octet = some (value, last)) : last < pattern.size := by
  unfold literal? at read
  split at read
  · obtain ⟨escaped, present, same⟩ := Option.map_eq_some_iff.mp read
    have behind := lt_of_getElem? present
    simp only [Prod.mk.injEq] at same
    omega
  · simp only [Option.some.injEq, Prod.mk.injEq] at read
    omega

/-- Braces end inside the pattern. A depth of zero stands for braces that have ended already. -/
theorem within_skipBraces (commaCounts : Bool) (depth : Nat) (inClass : Bool) (index : Nat)
    (ended : depth = 0 → index ≤ pattern.size) :
    (skipBraces pattern commaCounts depth inClass index).Within pattern := by
  fun_induction skipBraces pattern commaCounts depth inClass index with
  | case1 => exact ended rfl
  | case2 => trivial
  | case5 => exact Nat.succ_le_of_lt ‹_›
  | case4 =>
      rename_i inside _ _ inductionHypothesis
      exact inductionHypothesis fun _ => Nat.succ_le_of_lt inside
  | _ =>
      rename_i inductionHypothesis
      exact inductionHypothesis fun none => by omega

/-! ### Steps -/

theorem Search.Within.moved (within : search.Within pattern text) {position : Position}
    (bounds : position.Within pattern text) :
    Search.Within pattern text { search with position := position } :=
  ⟨bounds, within.braces, within.depth, within.longest⟩

/-- The innermost braces and what encloses them. -/
theorem Search.Within.split (within : search.Within pattern text) {outer : Position}
    {braces : List Position} (enclosing : search.braces = outer :: braces) :
    outer.Within pattern text ∧ (∀ other ∈ braces, other.Within pattern text) ∧
      braces.length ≤ depthLimit := by
  have bounds := within.braces
  have depth := within.depth
  rw [enclosing] at bounds depth
  exact ⟨bounds outer List.mem_cons_self,
    fun other member => bounds other (List.mem_cons_of_mem _ member), Nat.le_of_succ_le depth⟩

theorem within_fallBack? {position reached : Position} (within : position.Within pattern text)
    (falls : fallBack? text position = some reached) : reached.Within pattern text := by
  unfold fallBack? at falls
  split at falls
  · rename_i absorbed
    cases falls
    exact ⟨absorbed.2, within.star.1, within.star, within.doubleStar⟩
  · cases falls

theorem within_leaveBraces (within : search.Within pattern text) {index : Nat}
    (inside : index ≤ pattern.size) : (leaveBraces search index).Within pattern text := by
  unfold leaveBraces
  split
  · exact within
  · rename_i outer braces enclosing
    obtain ⟨outerWithin, bounds, depth⟩ := within.split enclosing
    refine ⟨⟨within.longest, inside, outerWithin.star, outerWithin.doubleStar⟩, bounds, depth, ?_⟩
    dsimp only
    split
    · exact Nat.zero_le _
    · exact within.longest

theorem within_recover (within : search.Within pattern text) :
    (recover pattern text negated search).Within pattern text := by
  unfold recover
  split
  · rename_i position falls
    exact within.moved (within_fallBack? within.position falls)
  · split
    · trivial
    · rename_i outer braces enclosing
      obtain ⟨outerWithin, bounds, depth⟩ := within.split enclosing
      have skipped : (skipBraces pattern true 1 false search.position.pattern).Within pattern :=
        within_skipBraces true 1 false _ (by omega)
      split
      · trivial
      · rename_i index found
        rw [found] at skipped
        exact within.moved
          ⟨outerWithin.inText, skipped, within.position.star, within.position.doubleStar⟩
      · rename_i index found
        rw [found] at skipped
        split
        · exact within_leaveBraces within skipped
        · split
          · rename_i position falls
            exact ⟨within_fallBack? outerWithin falls, bounds, depth, within.longest⟩
          · trivial

theorem within_stepStar (within : search.Within pattern text)
    (isStar : pattern[search.position.pattern]? = some 42) :
    (stepStar pattern text search).Within pattern text := by
  have here := lt_of_getElem? isStar
  have inText := within.position.inText
  unfold stepStar
  extract_lets position isDouble first star behind atSlash startsSegment doubleStar last
  have inside : first ≤ pattern.size ∧ behind ≤ pattern.size := by
    by_cases double : isDouble
    · have next : position.pattern + 1 < pattern.size := lt_of_getElem? double
      have forward := le_skipDoubleStars pattern (position.pattern + 2)
      have bounded : skipDoubleStars pattern (position.pattern + 2) ≤ pattern.size :=
        skipDoubleStars_le _ next
      simp only [first, behind, if_pos double]
      omega
    · simp only [first, behind, if_neg double]
      exact ⟨Nat.le_of_lt here, here⟩
  have starWithin : star.Within pattern text := ⟨inside.1, Nat.succ_le_succ inText⟩
  have doubleStarWithin : doubleStar.Within pattern text := by
    simp only [doubleStar]
    split
    · exact starWithin
    · exact within.position.doubleStar
  have lastInside : last ≤ pattern.size := by
    simp only [last]
    split
    · rename_i slash
      simp only [Bool.and_eq_true, atSlash, beq_iff_eq] at slash
      exact lt_of_getElem? slash.1.2.2
    · exact inside.2
  -- either the last double star goes on, or this star does
  generalize chosen : (if doubleStar.text ≠ star.text ∧ text[position.text]? = some separator then
      _ else _) = pair
  obtain ⟨goesOn, kept⟩ := pair
  have chosenWithin : goesOn ≤ pattern.size ∧ kept.Within pattern text := by
    split at chosen
    · split at chosen
      · cases chosen
        exact ⟨doubleStarWithin.1, doubleStarWithin.1, starWithin.2⟩
      · cases chosen
        exact ⟨lastInside, starWithin.1, Nat.zero_le _⟩
    · cases chosen
      exact ⟨lastInside, starWithin⟩
  have reached : ∀ index, index ≤ pattern.size →
      (Step.goOn { search with
        position := ⟨position.text, index, kept, doubleStar⟩ }).Within pattern text :=
    fun index bounded => within.moved ⟨inText, bounded, chosenWithin.2, doubleStarWithin⟩
  have skipped : (skipBraces pattern false 1 false goesOn).Within pattern :=
    within_skipBraces false 1 false goesOn (by omega)
  dsimp only
  split
  · split
    · trivial
    · rename_i index found
      rw [found] at skipped
      exact reached index skipped
    · rename_i index found
      rw [found] at skipped
      exact reached index skipped
  · exact reached goesOn chosenWithin.1

theorem within_stepClass (within : search.Within pattern text)
    (inText : search.position.text < text.size) (octet : UInt8) :
    (stepClass pattern text negated search octet).Within pattern text := by
  unfold stepClass
  dsimp only
  split
  · trivial
  · rename_i found last _
    split
    · trivial
    · rename_i closed
      have bounded : last + 1 ≤ pattern.size := by omega
      have position := within.position
      split
      · exact within.moved ⟨inText, bounded, position.star, position.doubleStar⟩
      · exact within_recover
          (within.moved ⟨position.inText, bounded, position.star, position.doubleStar⟩)

theorem within_stepLiteral (within : search.Within pattern text)
    (inPattern : search.position.pattern < pattern.size)
    (inText : search.position.text < text.size) (octet symbol : UInt8) :
    (stepLiteral pattern text negated search octet symbol).Within pattern text := by
  unfold stepLiteral
  dsimp only
  split
  · trivial
  · rename_i value last read
    have bounded := lt_of_literal? inPattern read
    have position := within.position
    have there : Search.Within pattern text
        { search with position := { search.position with pattern := last } } :=
      within.moved ⟨position.inText, Nat.le_of_lt bounded, position.star, position.doubleStar⟩
    split
    · generalize met : (if search.braces.isEmpty = false ∧ 0 < last ∧
          pattern[last - 1]? = some 125 then _ else _) = reached
      have reachedWithin : reached.Within pattern text ∧
          reached.position.text < text.size ∧ reached.position.pattern < pattern.size := by
        split at met
        · rename_i behindBrace
          obtain ⟨outer, braces, enclosing⟩ :=
            List.exists_cons_of_ne_nil (List.isEmpty_eq_false_iff.mp behindBrace.1)
          have longer : Search.Within pattern text
              { search with longest := search.position.text } :=
            ⟨position, within.braces, within.depth, position.inText⟩
          have left := within_leaveBraces longer (Nat.le_of_lt bounded)
          rw [met] at left
          refine ⟨left, ?_⟩
          rw [← met, leaveBraces, enclosing]
          exact ⟨inText, bounded⟩
        · rw [← met]
          exact ⟨there, inText, bounded⟩
      obtain ⟨left, beforeText, beforePattern⟩ := reachedWithin
      refine left.moved ⟨beforeText, beforePattern, left.position.star, ?_⟩
      dsimp only
      split
      · exact left.position.doubleStar
      · exact ⟨left.position.doubleStar.1, Nat.zero_le _⟩
    · exact within_recover there

/-- A step keeps a search within its bounds. -/
theorem within_step (within : search.Within pattern text) :
    (step pattern text negated search).Within pattern text := by
  have recovered : (recover pattern text negated search).Within pattern text :=
    within_recover within
  have position := within.position
  unfold step
  dsimp only
  split
  · trivial
  · exact recovered
  · exact within_stepStar within ‹_›
  · rename_i brace
    have inPattern := lt_of_getElem? brace
    split
    · split
      · exact recovered
      · exact within_stepLiteral within inPattern (lt_of_getElem? ‹_›) _ _
    · have longer : Search.Within pattern text
          { search with longest := max search.longest search.position.text } :=
        ⟨position, within.braces, within.depth, max_le within.longest position.inText⟩
      exact within_leaveBraces longer inPattern
  · rename_i comma
    have inPattern := lt_of_getElem? comma
    split
    · exact recovered
    · exact within_stepLiteral within inPattern (lt_of_getElem? ‹_›) _ _
    · rename_i enclosing
      have outerWithin := (within.split enclosing).1
      exact ⟨⟨outerWithin.inText, inPattern, within_none, within_none⟩, within.braces,
        within.depth, max_le within.longest position.inText⟩
  · exact recovered
  · rename_i question _
    split
    · exact recovered
    · exact within.moved ⟨lt_of_getElem? ‹_›, lt_of_getElem? question, position.star,
        position.doubleStar⟩
  · exact within_stepClass within (lt_of_getElem? ‹_›) _
  · rename_i opening _
    split
    · trivial
    · rename_i shallow
      refine ⟨⟨position.inText, lt_of_getElem? opening, within_none, within_none⟩, ?_, ?_,
        within.longest⟩
      · exact List.forall_mem_cons.mpr ⟨position, within.braces⟩
      · exact Nat.lt_of_not_le shallow
  · exact within_stepLiteral within (lt_of_getElem? ‹_›) (lt_of_getElem? ‹_›) _ _

end Bounds

/-! ## Numbers of searches -/

def Position.digits (position : Position) : List Nat :=
  [position.text, position.pattern, position.star.pattern, position.star.text,
    position.doubleStar.pattern, position.doubleStar.text]

def Search.digits (search : Search) : List Nat :=
  search.longest :: (search.position :: search.braces).flatMap Position.digits

/-- One more than the greatest digit of a search. -/
def digitBase (pattern text : Array UInt8) : Nat :=
  pattern.size + text.size + 4

/-- How many digits a search at the greatest depth has. -/
def digitLimit : Nat :=
  6 * (depthLimit + 1) + 1

/-- The digits of a search, read as a number, above the depth. -/
def Search.number (pattern text : Array UInt8) (search : Search) : Nat :=
  search.braces.length * digitBase pattern text ^ digitLimit +
    Nat.ofDigits (digitBase pattern text) search.digits

theorem stepBound_eq (pattern text : Array UInt8) :
    stepBound pattern text = (depthLimit + 1) * digitBase pattern text ^ digitLimit := by
  rw [stepBound, Nat.pow_eq, digitBase, digitLimit]

theorem Position.digits_injective {first second : Position} (same : first.digits = second.digits) :
    first = second := by
  obtain ⟨text, pattern, ⟨starPattern, starText⟩, doubleStar⟩ := first
  obtain ⟨otherText, otherPattern, ⟨otherStarPattern, otherStarText⟩, otherDoubleStar⟩ := second
  simp only [Position.digits, List.cons.injEq, and_true] at same
  obtain ⟨rfl, rfl, rfl, rfl, samePattern, sameText⟩ := same
  cases doubleStar
  cases otherDoubleStar
  simp_all

theorem Position.flatMap_digits_injective {first second : List Position}
    (same : first.flatMap Position.digits = second.flatMap Position.digits) : first = second := by
  induction first generalizing second with
  | nil => cases second with
    | nil => rfl
    | cons => simp [Position.digits] at same
  | cons position rest inductionHypothesis => cases second with
    | nil => simp [Position.digits] at same
    | cons other others =>
        rw [List.flatMap_cons, List.flatMap_cons] at same
        obtain ⟨sameFirst, sameRest⟩ := List.append_inj same rfl
        rw [Position.digits_injective sameFirst, inductionHypothesis sameRest]

theorem Search.digits_injective {first second : Search} (same : first.digits = second.digits) :
    first = second := by
  simp only [Search.digits, List.cons.injEq] at same
  have positions := Position.flatMap_digits_injective same.2
  cases first
  cases second
  simp_all

theorem Search.length_digits (search : Search) :
    search.digits.length = 6 * (search.braces.length + 1) + 1 := by
  simp [Search.digits, Position.digits, List.length_flatMap]
  omega

section Numbers

variable {pattern text : Array UInt8} {search : Search}

theorem one_lt_digitBase (pattern text : Array UInt8) : 1 < digitBase pattern text := by
  unfold digitBase
  omega

theorem Position.Within.digit_lt {position : Position} (within : position.Within pattern text)
    {digit : Nat} (member : digit ∈ position.digits) : digit < digitBase pattern text := by
  have inText := within.inText
  have inPattern := within.inPattern
  obtain ⟨starPattern, starText⟩ := within.star
  obtain ⟨doublePattern, doubleText⟩ := within.doubleStar
  unfold digitBase
  simp only [Position.digits, List.mem_cons, List.not_mem_nil, or_false] at member
  omega

theorem Search.Within.digit_lt (within : search.Within pattern text) {digit : Nat}
    (member : digit ∈ search.digits) : digit < digitBase pattern text := by
  have longest := within.longest
  rw [Search.digits, List.mem_cons, List.mem_flatMap] at member
  rcases member with rfl | ⟨position, listed, member⟩
  · unfold digitBase
    omega
  · rcases List.mem_cons.mp listed with rfl | enclosing
    · exact within.position.digit_lt member
    · exact (within.braces position enclosing).digit_lt member

theorem Search.Within.ofDigits_lt (within : search.Within pattern text) :
    Nat.ofDigits (digitBase pattern text) search.digits <
      digitBase pattern text ^ digitLimit := by
  have base := one_lt_digitBase pattern text
  have depth := within.depth
  calc Nat.ofDigits (digitBase pattern text) search.digits
      < digitBase pattern text ^ search.digits.length :=
        Nat.ofDigits_lt_base_pow_length base fun _ => within.digit_lt
    _ ≤ digitBase pattern text ^ digitLimit := by
        apply Nat.pow_le_pow_right (by omega)
        rw [Search.length_digits, digitLimit]
        omega

theorem Search.Within.number_lt (within : search.Within pattern text) :
    search.number pattern text < stepBound pattern text := by
  have digits := within.ofDigits_lt
  have depth := Nat.mul_le_mul_right (digitBase pattern text ^ digitLimit) within.depth
  rw [stepBound_eq, Nat.succ_mul, Search.number]
  omega

/-- Different searches have different numbers. -/
theorem Search.Within.eq_of_number {other : Search} (within : search.Within pattern text)
    (withinToo : other.Within pattern text)
    (same : search.number pattern text = other.number pattern text) : search = other := by
  have small := within.ofDigits_lt
  have smallToo := withinToo.ofDigits_lt
  have positive : 0 < digitBase pattern text ^ digitLimit := by omega
  have depths : search.braces.length = other.braces.length := by
    have divided := congrArg (· / digitBase pattern text ^ digitLimit) same
    simp only [Search.number, Nat.mul_comm _ (digitBase pattern text ^ digitLimit)] at divided
    rwa [Nat.mul_add_div positive, Nat.mul_add_div positive, Nat.div_eq_of_lt small,
      Nat.div_eq_of_lt smallToo] at divided
  have digits : Nat.ofDigits (digitBase pattern text) search.digits =
      Nat.ofDigits (digitBase pattern text) other.digits := by
    rw [Search.number, Search.number, depths] at same
    exact Nat.add_left_cancel same
  have lengths : search.digits.length = other.digits.length := by
    rw [Search.length_digits, Search.length_digits, depths]
  apply Search.digits_injective
  exact Nat.ofDigits_inj_of_len_eq (one_lt_digitBase pattern text) lengths
    (fun _ => within.digit_lt) (fun _ => withinToo.digit_lt) digits

end Numbers

/-! ## Runs -/

section Runs

variable {pattern text : Array UInt8} {negated : Bool} {search : Search}

theorem within_advance? (within : search.Within pattern text) {steps : Nat} {reached : Search}
    (goesOn : advance? pattern text negated steps search = some reached) :
    reached.Within pattern text := by
  induction steps generalizing search with
  | zero =>
      cases goesOn
      exact within
  | succ steps inductionHypothesis =>
      have next : (step pattern text negated search).Within pattern text := within_step within
      rw [advance?] at goesOn
      cases stepped : step pattern text negated search with
      | stop matched =>
          rw [stepped] at goesOn
          cases goesOn
      | goOn later =>
          rw [stepped] at goesOn next
          exact inductionHypothesis next goesOn

/-- A run that does not end within a bound takes at least so many steps. -/
theorem advance?_of_run {bound : Nat} (endless : run pattern text negated bound search = none)
    {steps : Nat} (short : steps ≤ bound) :
    ∃ reached, advance? pattern text negated steps search = some reached := by
  induction steps generalizing bound search with
  | zero => exact ⟨search, rfl⟩
  | succ steps inductionHypothesis =>
      obtain ⟨bound, rfl⟩ := Nat.exists_eq_succ_of_ne_zero (Nat.ne_zero_of_lt short)
      rw [run] at endless
      rw [advance?]
      cases stepped : step pattern text negated search with
      | stop matched =>
          rw [stepped] at endless
          cases endless
      | goOn next =>
          rw [stepped] at endless
          exact inductionHypothesis endless (Nat.le_of_succ_le_succ short)

theorem advance?_add {steps : Nat} {reached : Search}
    (goesOn : advance? pattern text negated steps search = some reached) (more : Nat) :
    advance? pattern text negated (steps + more) search =
      advance? pattern text negated more reached := by
  induction steps generalizing search with
  | zero =>
      cases goesOn
      rw [Nat.zero_add]
  | succ steps inductionHypothesis =>
      rw [advance?] at goesOn
      rw [Nat.add_right_comm, advance?]
      cases stepped : step pattern text negated search with
      | stop matched =>
          rw [stepped] at goesOn
          cases goesOn
      | goOn next =>
          rw [stepped] at goesOn
          exact inductionHypothesis goesOn

/-- Among more searches than there are numbers, two are the same. -/
theorem exists_return (within : search.Within pattern text)
    (endless : run pattern text negated (stepBound pattern text) search = none) :
    ∃ lead steps reached, advance? pattern text negated lead search = some reached ∧
      advance? pattern text negated (steps + 1) reached = some reached := by
  have reaches : ∀ index : Fin (stepBound pattern text + 1),
      ∃ reached, advance? pattern text negated index search = some reached :=
    fun index => advance?_of_run endless (Nat.le_of_lt_succ index.isLt)
  choose visited visits using reaches
  have bounded : ∀ index, (visited index).Within pattern text :=
    fun index => within_advance? within (visits index)
  obtain ⟨first, second, different, same⟩ := Fintype.exists_ne_map_eq_of_card_lt
    (fun index => (⟨_, (bounded index).number_lt⟩ : Fin (stepBound pattern text))) (by simp)
  simp only [Fin.mk.injEq] at same
  -- of the two visits, one comes first
  have returns : ∀ earlier later : Fin (stepBound pattern text + 1), earlier < later →
      visited earlier = visited later →
        ∃ lead steps reached, advance? pattern text negated lead search = some reached ∧
          advance? pattern text negated (steps + 1) reached = some reached := by
    intro earlier later before met
    have between := advance?_add (visits earlier) (later - earlier)
    rw [Nat.add_sub_cancel' (Nat.le_of_lt before), visits later, ← met] at between
    have positive : later.val - earlier.val - 1 + 1 = later - earlier := by omega
    exact ⟨earlier, later - earlier - 1, visited earlier, visits earlier, positive ▸ between.symm⟩
  have met : visited first = visited second :=
    (bounded first).eq_of_number (bounded second) same
  rcases lt_or_gt_of_ne different with before | behind
  · exact returns first second before met
  · exact returns second first behind met.symm

/-- A search that does not end within the bound never ends. -/
theorem run_of_stepBound (within : search.Within pattern text)
    (endless : run pattern text negated (stepBound pattern text) search = none) (bound : Nat) :
    run pattern text negated bound search = none := by
  obtain ⟨lead, steps, reached, leads, returns⟩ := exists_return within endless
  exact run_of_lasso leads returns bound

/-- What a run yields is not changed by more steps. -/
theorem run_of_run {steps : Nat} {matched : Bool}
    (ends : run pattern text negated steps search = some matched) {bound : Nat}
    (long : steps ≤ bound) : run pattern text negated bound search = some matched := by
  induction steps generalizing bound search with
  | zero => cases ends
  | succ steps inductionHypothesis =>
      obtain ⟨bound, rfl⟩ := Nat.exists_eq_succ_of_ne_zero (Nat.ne_zero_of_lt long)
      rw [run] at ends ⊢
      cases stepped : step pattern text negated search with
      | stop found =>
          rw [stepped] at ends
          exact ends
      | goOn next =>
          rw [stepped] at ends
          exact inductionHypothesis ends (Nat.le_of_succ_le_succ long)

end Runs

/-! ## Matching -/

/-- How many exclamation marks a pattern begins with. -/
def exclamations (pattern : Bytes) : Nat :=
  (pattern.takeWhile (· = 33)).length

/-- The search for a pattern as it begins. -/
def Search.start (pattern : Bytes) : Search :=
  ⟨⟨0, exclamations pattern, Star.none, Star.none⟩, [], 0⟩

/-- The search for a pattern in a text ends, after any number of steps. -/
def Ends (pattern text : Bytes) (matched : Bool) : Prop :=
  ∃ steps, run pattern.toArray text.toArray (exclamations pattern % 2 = 1) steps
    (Search.start pattern) = some matched

theorem matches?_eq_run (pattern text : Bytes) :
    matches? pattern text = run pattern.toArray text.toArray (exclamations pattern % 2 = 1)
      (stepBound pattern.toArray text.toArray) (Search.start pattern) := by
  unfold matches?
  rfl

theorem within_start (pattern text : Bytes) :
    (Search.start pattern).Within pattern.toArray text.toArray := by
  have inPattern : exclamations pattern ≤ pattern.length :=
    (List.takeWhile_prefix _).length_le
  exact ⟨⟨Nat.zero_le _, by simpa [Search.start] using inPattern, within_none, within_none⟩,
    by simp [Search.start], Nat.zero_le _, Nat.zero_le _⟩

/-- The bound is no restriction: what the search yields within it is what it yields at all. -/
theorem matches?_eq_some_iff {pattern text : Bytes} {matched : Bool} :
    matches? pattern text = some matched ↔ Ends pattern text matched := by
  rw [matches?_eq_run]
  constructor
  · exact fun found => ⟨_, found⟩
  · rintro ⟨steps, ends⟩
    rcases Nat.le_total steps (stepBound pattern.toArray text.toArray) with short | long
    · exact run_of_run ends short
    · cases found : run pattern.toArray text.toArray (exclamations pattern % 2 = 1)
          (stepBound pattern.toArray text.toArray) (Search.start pattern) with
      | none =>
          rw [run_of_stepBound (within_start pattern text) found steps] at ends
          cases ends
      | some other => rw [← run_of_run found long, ends]

end RespServer.Glob
