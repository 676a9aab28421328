import RespServer.Frame.Decoding

/-!
Contract: readings that more octets do not change.

Owns:
- `SteadyAt`, a reading that has run out of octets or stays what it is when more octets follow,
  how many octets it takes at least, and that it looks at no others;
- that lines, counts, counted octets and frames are all read steadily.

Does not own: buffers that grow (`Proofs.Chunking`).

## Why chains

Every reader of a frame takes a line or counted octets and then looks at what it took. A chain of
readers is steady where its links are. So each reader is written as a chain once, and that it is
steady is read off the chain.
-/

namespace RespServer

/-- Reads a value from the front of octets, and returns it with the unread rest. -/
abbrev FrontReader (α : Type) := Bytes → Except DecodingError (α × Bytes)

namespace FrontReader

/-- Takes nothing and yields what was found before, or its failure. -/
def found (finding : Except DecodingError α) : FrontReader α := fun input =>
  match finding with
  | .error failure => .error failure
  | .ok value => .ok (value, input)

/-- One reader after another. -/
def andThen (first : FrontReader α) (next : α → FrontReader β) : FrontReader β := fun input =>
  match first input with
  | .error failure => .error failure
  | .ok (value, unread) => next value unread

/-- A line without its end. -/
def line : FrontReader Bytes := fun input =>
  match Frame.takeLine? input with
  | none => .error .incomplete
  | some taken => .ok taken

/-- The result of a reading with more octets behind the unread rest. -/
def followedBy (more : Bytes) : Except DecodingError (α × Bytes) → Except DecodingError (α × Bytes)
  | .error failure => .error failure
  | .ok (value, unread) => .ok (value, unread ++ more)

/-- A reading that is the same whatever follows, unless it ran out of octets; how many octets it
takes from the front at least; and that it looks at no others. -/
structure SteadyAt (least : Nat) (reader : FrontReader α) (input : Bytes) : Prop where
  persists : reader input ≠ .error .incomplete →
    ∀ more, reader (input ++ more) = followedBy more (reader input)
  leaves : ∀ {value : α} {unread : Bytes}, reader input = .ok (value, unread) →
    ∃ used, input = used ++ unread ∧ least ≤ used.length
  alone : ∀ {value : α} {unread : Bytes}, reader input = .ok (value, unread) →
    ∃ used, input = used ++ unread ∧ ∀ more, reader (used ++ more) = .ok (value, more)

/-! ## Chains of readers -/

section Chains

variable {α β : Type} {least more : Nat} {input : Bytes}

theorem SteadyAt.mono {fewer : Nat} {reader : FrontReader α} (steady : SteadyAt least reader input)
    (le : fewer ≤ least) : SteadyAt fewer reader input where
  persists := steady.persists
  leaves := by
    intro value unread read
    obtain ⟨used, split, atLeast⟩ := steady.leaves read
    exact ⟨used, split, Nat.le_trans le atLeast⟩
  alone := steady.alone

/-- A reading that fails on every longer input in the same way takes nothing. -/
theorem steadyAt_of_failed {reader : FrontReader α} {failure : DecodingError}
    (failed : ∀ more, reader (input ++ more) = .error failure) : SteadyAt least reader input := by
  have here : reader input = .error failure := List.append_nil input ▸ failed []
  constructor
  · intro _ more
    rw [failed, here]
    rfl
  all_goals
    intro value unread read
    rw [here] at read
    cases read

theorem steadyAt_of_incomplete {reader : FrontReader α}
    (lacking : reader input = .error .incomplete) : SteadyAt least reader input := by
  constructor
  · intro complete
    exact absurd lacking complete
  all_goals
    intro value unread read
    rw [lacking] at read
    cases read

theorem steadyAt_found (finding : Except DecodingError α) (input : Bytes) :
    SteadyAt 0 (found finding) input := by
  cases finding with
  | error failure => exact steadyAt_of_failed fun _ => rfl
  | ok value =>
      refine ⟨fun _ _ => rfl, ?_, ?_⟩
      · intro read unread same
        cases same
        exact ⟨[], rfl, Nat.zero_le 0⟩
      · intro read unread same
        cases same
        exact ⟨[], rfl, fun _ => rfl⟩

theorem andThen_of_ok {first : FrontReader α} {next : α → FrontReader β} {unread : Bytes}
    {value : α} (read : first input = .ok (value, unread)) :
    andThen first next input = next value unread := by
  rw [andThen, read]

theorem andThen_of_error {first : FrontReader α} {next : α → FrontReader β}
    {failure : DecodingError} (refused : first input = .error failure) :
    andThen first next input = .error failure := by
  rw [andThen, refused]

/-- A chain is steady if its links are, each where it begins to read. -/
theorem SteadyAt.andThen {first : FrontReader α} {next : α → FrontReader β}
    (begun : SteadyAt least first input) (more : Nat)
    (later : ∀ {value : α} {unread : Bytes}, first input = .ok (value, unread) →
      SteadyAt more (next value) unread) :
    SteadyAt (least + more) (andThen first next) input := by
  cases read : first input with
  | error failure =>
      have refused : FrontReader.andThen first next input = .error failure := andThen_of_error read
      constructor
      · intro complete extra
        rw [refused] at complete ⊢
        apply andThen_of_error
        rw [begun.persists (by rw [read]; simpa using complete), read]
        rfl
      all_goals
        intro value unread taken
        rw [refused] at taken
        cases taken
  | ok pair =>
      obtain ⟨value, unread⟩ := pair
      have continued : FrontReader.andThen first next input = next value unread :=
        andThen_of_ok read
      constructor
      · intro complete extra
        rw [continued] at complete ⊢
        have extended : first (input ++ extra) = .ok (value, unread ++ extra) := by
          rw [begun.persists (by rw [read]; simp), read]
          rfl
        rw [andThen_of_ok extended]
        exact (later read).persists complete extra
      · intro last rest taken
        rw [continued] at taken
        obtain ⟨front, split, atLeast⟩ := begun.leaves read
        obtain ⟨back, splitRest, atLeastRest⟩ := (later read).leaves taken
        refine ⟨front ++ back, ?_, ?_⟩
        · rw [split, splitRest, List.append_assoc]
        · rw [List.length_append]
          exact Nat.add_le_add atLeast atLeastRest
      · intro last rest taken
        rw [continued] at taken
        obtain ⟨front, split, frontAlone⟩ := begun.alone read
        obtain ⟨back, splitRest, backAlone⟩ := (later read).alone taken
        refine ⟨front ++ back, ?_, fun extra => ?_⟩
        · rw [split, splitRest, List.append_assoc]
        · rw [List.append_assoc, andThen_of_ok (frontAlone (back ++ extra)), backAlone]

/-- What was taken is looked at, and nothing more is taken. -/
theorem SteadyAt.thenFound {first : FrontReader α} (begun : SteadyAt least first input)
    (finding : α → Except DecodingError β) :
    SteadyAt least (FrontReader.andThen first fun value => found (finding value)) input :=
  begun.andThen 0 fun _ => steadyAt_found _ _

end Chains

/-! ## Lines and counted octets -/

/-- What follows a line is not looked at. -/
theorem takeLine?_alone {input contents unread : Bytes}
    (taken : Frame.takeLine? input = some (contents, unread)) (more : Bytes) :
    Frame.takeLine? (contents ++ crlf ++ more) = some (contents, more) := by
  induction input using Frame.takeLine?.induct generalizing contents unread with
  | case1 => cases taken
  | case2 rest =>
      cases taken
      rfl
  | case3 octet rest notLineEnd inductionHypothesis =>
      rw [Frame.takeLine?.eq_3 octet rest notLineEnd] at taken
      obtain ⟨⟨restContents, restUnread⟩, restTaken, same⟩ := Option.map_eq_some_iff.mp taken
      cases same
      have whole := Frame.takeLine?_append restTaken
      have noLineEnd : ∀ behind, octet = 13 →
          restContents ++ crlf ++ more = 10 :: behind → False := by
        intro behind isReturn isFeed
        cases restContents with
        | nil => cases isFeed
        | cons next restContents =>
            cases isFeed
            exact notLineEnd _ isReturn whole.symm
      change Frame.takeLine? (octet :: (restContents ++ crlf ++ more)) = _
      rw [Frame.takeLine?.eq_3 octet _ noLineEnd, inductionHypothesis restTaken]
      rfl

/-- A line that has ended does not change. -/
theorem takeLine?_append_more {input contents unread : Bytes}
    (taken : Frame.takeLine? input = some (contents, unread)) (more : Bytes) :
    Frame.takeLine? (input ++ more) = some (contents, unread ++ more) := by
  have extended := takeLine?_alone taken (unread ++ more)
  rwa [← List.append_assoc, Frame.takeLine?_append taken] at extended

theorem steadyAt_line (input : Bytes) : SteadyAt 2 line input := by
  cases taken : Frame.takeLine? input with
  | none =>
      have lacking : line input = .error .incomplete := by rw [line, taken]
      exact steadyAt_of_incomplete lacking
  | some pair =>
      obtain ⟨contents, unread⟩ := pair
      have read : line input = .ok (contents, unread) := by rw [line, taken]
      constructor
      · intro _ more
        rw [read, line, takeLine?_append_more taken more]
        rfl
      · intro value rest same
        rw [read] at same
        cases same
        refine ⟨contents ++ crlf, (Frame.takeLine?_append taken).symm, ?_⟩
        rw [List.length_append]
        exact Nat.le_add_left _ _
      · intro value rest same
        rw [read] at same
        cases same
        refine ⟨contents ++ crlf, (Frame.takeLine?_append taken).symm, fun more => ?_⟩
        rw [line, takeLine?_alone taken more]

/-- Counted octets with two more behind them, which should be a line end. -/
theorem takeExactly_append (data : Bytes) (first second : UInt8) (rest : Bytes) :
    Frame.takeExactly data.length (data ++ first :: second :: rest) =
      if first = 13 ∧ second = 10 then .ok (data, rest) else .error .unterminated := by
  unfold Frame.takeExactly
  rw [List.drop_left, List.take_left]
  split
  · rename_i behind
    cases behind
    rfl
  · rename_i notLineEnd behind
    cases behind
    rw [if_neg]
    rintro ⟨rfl, rfl⟩
    exact notLineEnd rfl rfl
  · rename_i notTwo
    exact absurd rfl (notTwo first second rest)

theorem takeExactly_of_short {count : Nat} {input : Bytes} (short : input.length < count + 2) :
    Frame.takeExactly count input = .error .incomplete := by
  have few : (input.drop count).length < 2 := by
    rw [List.length_drop]
    omega
  unfold Frame.takeExactly
  split
  · rename_i behind
    rw [behind, List.length_cons, List.length_cons] at few
    omega
  · rename_i behind
    rw [behind, List.length_cons, List.length_cons] at few
    omega
  · rfl

theorem exists_split_of_length {count : Nat} {input : Bytes} (enough : count + 2 ≤ input.length) :
    ∃ (data : Bytes) (first second : UInt8) (rest : Bytes),
      input = data ++ first :: second :: rest ∧ data.length = count := by
  have two : 2 ≤ (input.drop count).length := by
    rw [List.length_drop]
    omega
  match behind : input.drop count, two with
  | first :: second :: rest, _ =>
      refine ⟨input.take count, first, second, rest, ?_, ?_⟩
      · rw [← behind, List.take_append_drop]
      · rw [List.length_take]
        omega

theorem steadyAt_takeExactly (count : Nat) (input : Bytes) :
    SteadyAt 2 (Frame.takeExactly count) input := by
  by_cases enough : count + 2 ≤ input.length
  · obtain ⟨data, first, second, rest, rfl, rfl⟩ := exists_split_of_length enough
    constructor
    · intro _ more
      have longer : data ++ first :: second :: rest ++ more =
          data ++ first :: second :: (rest ++ more) := by simp
      rw [longer, takeExactly_append, takeExactly_append]
      split <;> rfl
    · intro value unread read
      rw [takeExactly_append] at read
      split at read
      · cases read
        refine ⟨data ++ [first, second], by simp, ?_⟩
        rw [List.length_append]
        exact Nat.le_add_left _ _
      · cases read
    · intro value unread read
      rw [takeExactly_append] at read
      split at read
      · rename_i isLineEnd
        cases read
        refine ⟨data ++ [first, second], by simp, fun more => ?_⟩
        rw [List.append_assoc]
        exact (takeExactly_append data first second more).trans (if_pos isLineEnd)
      · cases read
  · exact steadyAt_of_incomplete (takeExactly_of_short (Nat.lt_of_not_le enough))

/-! ## The readers as chains -/

theorem takeCount_eq :
    Frame.takeCount = andThen line fun contents => found
      (match IntegerType.int64.read? contents with
        | none => .error .notCount
        | some count =>
            if count = -1 then .ok none
            else if count < 0 then .error (.negativeCount count)
            else .ok (some count.toNat)) := by
  funext input
  unfold Frame.takeCount andThen line found
  cases Frame.takeLine? input with
  | none => rfl
  | some taken =>
      dsimp only
      cases IntegerType.int64.read? taken.1 with
      | none => rfl
      | some count =>
          by_cases isNull : count = -1
          · simp only [isNull, if_true]
          · by_cases isNegative : count < 0
            · simp only [isNull, isNegative, if_true, if_false]
            · simp only [isNull, isNegative, if_false]

theorem takeText_eq :
    Frame.takeText = andThen line fun contents => found
      (match Bytes.text? contents with
        | none => .error .notText
        | some text => .ok text) := by
  funext input
  unfold Frame.takeText andThen line found
  cases Frame.takeLine? input with
  | none => rfl
  | some taken =>
      dsimp only
      cases Bytes.text? taken.1 <;> rfl

theorem takeInteger_eq :
    Frame.takeInteger = andThen line fun contents => found
      (if (Bytes.text? contents).isNone then .error .notText
      else match IntegerType.int64.read? contents with
        | none => .error .notInteger
        | some number => .ok (Int64.ofInt number)) := by
  funext input
  unfold Frame.takeInteger andThen line found
  cases Frame.takeLine? input with
  | none => rfl
  | some taken =>
      dsimp only
      cases Bytes.text? taken.1 with
      | none => rfl
      | some text => cases IntegerType.int64.read? taken.1 <;> rfl

theorem takeCounted_eq :
    Frame.takeCounted = andThen Frame.takeCount fun count =>
      match count with
      | none => found (.ok none)
      | some count => andThen (Frame.takeExactly count) fun data => found (.ok (some data)) := by
  funext input
  unfold Frame.takeCounted andThen found
  cases Frame.takeCount input with
  | error failure => rfl
  | ok counted =>
      obtain ⟨count, unread⟩ := counted
      cases count with
      | none => rfl
      | some count =>
          dsimp only
          cases Frame.takeExactly count unread <;> rfl

theorem takeScalar_eq (mark : Frame.Mark) :
    Frame.takeScalar mark =
      match mark with
      | .simple => andThen Frame.takeText fun text => found (.ok (.simple text))
      | .error => andThen Frame.takeText fun text => found (.ok (.error text))
      | .integer => andThen Frame.takeInteger fun number => found (.ok (.integer number))
      | .bulk => andThen Frame.takeCounted fun data => found (.ok (data.elim .null .bulk))
      | .bulkError => andThen Frame.takeCounted fun data => found
          (match data with
            | none => .ok .null
            | some data =>
                match Bytes.text? data with
                | none => .error .notText
                | some text => .ok (.error text))
      | .null | .array => andThen line fun _ => found (.ok .null) := by
  funext input
  cases mark with
  | simple | error =>
      unfold Frame.takeScalar andThen found
      dsimp only
      cases Frame.takeText input <;> rfl
  | integer =>
      unfold Frame.takeScalar andThen found
      dsimp only
      cases Frame.takeInteger input <;> rfl
  | bulk =>
      unfold Frame.takeScalar andThen found
      dsimp only
      cases Frame.takeCounted input with
      | error failure => rfl
      | ok counted =>
          obtain ⟨data, unread⟩ := counted
          cases data <;> rfl
  | bulkError =>
      unfold Frame.takeScalar andThen found
      dsimp only
      cases Frame.takeCounted input with
      | error failure => rfl
      | ok counted =>
          obtain ⟨data, unread⟩ := counted
          cases data with
          | none => rfl
          | some data =>
              dsimp only
              cases Bytes.text? data <;> rfl
  | null | array =>
      unfold Frame.takeScalar andThen line found
      dsimp only
      cases Frame.takeLine? input <;> rfl

theorem steadyAt_takeCount (input : Bytes) : SteadyAt 2 Frame.takeCount input := by
  rw [takeCount_eq]
  exact (steadyAt_line input).thenFound _

theorem steadyAt_takeCounted (input : Bytes) : SteadyAt 2 Frame.takeCounted input := by
  rw [takeCounted_eq]
  refine (steadyAt_takeCount input).andThen 0 ?_
  intro count unread _
  cases count with
  | none => exact steadyAt_found _ _
  | some count =>
      exact ((steadyAt_takeExactly count unread).thenFound _).mono (Nat.zero_le 2)

theorem steadyAt_takeScalar (mark : Frame.Mark) (input : Bytes) :
    SteadyAt 2 (Frame.takeScalar mark) input := by
  rw [takeScalar_eq]
  cases mark with
  | simple | error =>
      have steady : SteadyAt 2 Frame.takeText input := by
        rw [takeText_eq]
        exact (steadyAt_line input).thenFound _
      exact steady.thenFound _
  | integer =>
      have steady : SteadyAt 2 Frame.takeInteger input := by
        rw [takeInteger_eq]
        exact (steadyAt_line input).thenFound _
      exact steady.thenFound _
  | bulk | bulkError => exact (steadyAt_takeCounted input).thenFound _
  | null | array => exact (steadyAt_line input).thenFound _

/-! ## Frames -/

/-- Reads as many frames as counted. -/
def frames (count : Nat) : FrontReader (List Frame) := fun input =>
  match Frame.takeEach count input with
  | .error failure => .error failure
  | .ok (elements, unread) => .ok (elements, unread.val)

theorem frames_zero : frames 0 = found (.ok []) := by
  funext input
  rw [frames, Frame.takeEach]
  rfl

theorem frames_succ (count : Nat) :
    frames (count + 1) = andThen Frame.decode? fun element =>
      andThen (frames count) fun elements => found (.ok (element :: elements)) := by
  funext input
  rw [frames, Frame.takeEach]
  unfold andThen frames Frame.decode? found
  cases Frame.take input with
  | error failure => rfl
  | ok taken =>
      obtain ⟨element, unread, shorter⟩ := taken
      dsimp only
      cases Frame.takeEach count unread <;> rfl

/-- The contents of an array, whose count was read. -/
def elements : Option Nat → FrontReader Frame
  | none => found (.ok .null)
  | some count => andThen (frames count) fun elements => found (.ok (.array elements))

theorem decode?_nil : Frame.decode? [] = .error .incomplete := by
  rw [Frame.decode?, Frame.take]

theorem decode?_of_unmarked {octet : UInt8} {failure : DecodingError}
    (unmarked : Frame.Mark.ofOctet? octet = .error failure) (rest : Bytes) :
    Frame.decode? (octet :: rest) = .error failure := by
  rw [Frame.decode?, Frame.take, unmarked]

theorem decode?_of_scalar {octet : UInt8} {mark : Frame.Mark}
    (marked : Frame.Mark.ofOctet? octet = .ok mark) (scalar : mark ≠ .array) (rest : Bytes) :
    Frame.decode? (octet :: rest) = Frame.takeScalar mark rest := by
  rw [Frame.decode?, Frame.take, marked]
  cases mark with
  | array => exact absurd rfl scalar
  | simple | error | integer | bulk | bulkError | null =>
      dsimp only
      split
      · rename_i failed
        split at failed
        · rename_i scalarFailed
          cases failed
          rw [scalarFailed]
        · cases failed
      · rename_i taken
        split at taken
        · cases taken
        · rename_i scalarTaken
          cases taken
          exact scalarTaken.symm

theorem decode?_of_array {octet : UInt8} (marked : Frame.Mark.ofOctet? octet = .ok .array)
    (rest : Bytes) : Frame.decode? (octet :: rest) = andThen Frame.takeCount elements rest := by
  rw [Frame.decode?, Frame.take, marked]
  dsimp only
  unfold andThen elements
  split
  · rename_i failed
    split at failed
    · rename_i countFailed
      cases failed
      rw [countFailed]
    · cases failed
    · rename_i counted
      rw [counted]
      dsimp only
      unfold andThen frames
      split at failed
      · rename_i eachFailed
        cases failed
        rw [eachFailed]
      · cases failed
  · rename_i taken
    split at taken
    · cases taken
    · rename_i counted
      cases taken
      dsimp only
      rw [counted]
      rfl
    · rename_i counted
      rw [counted]
      dsimp only
      unfold andThen frames found
      split at taken
      · cases taken
      · rename_i eachTaken
        cases taken
        rw [eachTaken]

/-- Counted frames are read steadily where each frame is. Each takes octets, so those behind the
first stand nearer to the end of the input. -/
theorem steadyAt_frames {bound : Nat}
    (steady : ∀ input : Bytes, input.length < bound → SteadyAt 3 Frame.decode? input)
    (count : Nat) {input : Bytes} (within : input.length < bound) :
    SteadyAt 0 (frames count) input := by
  induction count generalizing input with
  | zero =>
      rw [frames_zero]
      exact steadyAt_found _ _
  | succ count inductionHypothesis =>
      rw [frames_succ]
      have first := steady input within
      refine (first.mono (Nat.zero_le 3)).andThen 0 ?_
      intro element unread read
      refine (inductionHypothesis ?_).thenFound _
      exact Nat.lt_trans (Frame.length_of_decode? read) within

/-- A mark is read before the frame it announces. -/
theorem SteadyAt.cons {reader body : FrontReader α} {least : Nat} {octet : UInt8} {rest : Bytes}
    (announces : ∀ rest, reader (octet :: rest) = body rest) (steady : SteadyAt least body rest) :
    SteadyAt (least + 1) reader (octet :: rest) := by
  constructor
  · intro complete more
    rw [List.cons_append, announces, announces] at *
    exact steady.persists complete more
  · intro value unread read
    rw [announces] at read
    obtain ⟨used, split, atLeast⟩ := steady.leaves read
    refine ⟨octet :: used, ?_, ?_⟩
    · rw [split, List.cons_append]
    · rw [List.length_cons]
      exact Nat.add_le_add_right atLeast 1
  · intro value unread read
    rw [announces] at read
    obtain ⟨used, split, readAlone⟩ := steady.alone read
    refine ⟨octet :: used, ?_, fun more => ?_⟩
    · rw [split, List.cons_append]
    · rw [List.cons_append, announces, readAlone]

/-- Frames are read steadily: no octet that follows changes what was read, or why reading failed
for good. -/
theorem steadyAt_decode? (input : Bytes) : SteadyAt 3 Frame.decode? input := by
  induction bound : input.length using Nat.strongRecOn generalizing input with
  | ind length inductionHypothesis =>
      cases input with
      | nil => exact steadyAt_of_incomplete decode?_nil
      | cons octet rest =>
          cases marked : Frame.Mark.ofOctet? octet with
          | error failure =>
              exact steadyAt_of_failed fun more => decode?_of_unmarked marked (rest ++ more)
          | ok mark =>
              by_cases isArray : mark = .array
              · subst isArray
                refine SteadyAt.cons (decode?_of_array marked) ?_
                refine (steadyAt_takeCount rest).andThen 0 ?_
                intro count unread counted
                cases count with
                | none => exact steadyAt_found (.ok Frame.null) unread
                | some count =>
                    refine (steadyAt_frames ?_ count (Nat.lt_succ_self _)).thenFound _
                    intro later shorter
                    have behindCount := Frame.length_of_takeCount counted
                    rw [List.length_cons] at bound
                    exact inductionHypothesis later.length (by omega) later rfl
              · exact SteadyAt.cons (decode?_of_scalar marked isArray)
                  (steadyAt_takeScalar mark rest)

end FrontReader
end RespServer
