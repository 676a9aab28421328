import RespServer.Proofs.Execution
import RespServer.Proofs.RoundTrip
import RespServer.Proofs.Turn

/-!
Contract: with which failures arguments and operations are refused, and that these hold no line end.

Owns:
- `Frame.LineSafe`, a frame whose lines hold no line end;
- that the names of all known commands hold none;
- `RefusalsAre`, a predicate that covers the failures of the readers of arguments, and that these
  readers have no others;
- `Store.FailuresAre`, the same for the operations of the store;
- that both are answered without a line end if the name of the command holds none.

Does not own: replies to commands that are carried out (`Proofs.Repetition`).
-/

namespace RespServer

open Text

/-- No line of the frame holds a line end. -/
def Frame.LineSafe (frame : Frame) : Prop :=
  ∀ text ∈ frame.lines, ¬HasLineEnd text

instance (frame : Frame) : Decidable frame.LineSafe :=
  inferInstanceAs (Decidable (∀ text ∈ frame.lines, ¬HasLineEnd text))

namespace Frame

theorem recoverable_iff (frame : Frame) :
    frame.Recoverable ↔ frame.LineSafe ∧ ∀ count ∈ frame.counts, count < countLimit :=
  ⟨fun recoverable => ⟨recoverable.lines, recoverable.counts⟩, fun both => ⟨both.1, both.2⟩⟩

@[simp] theorem lineSafe_simple (text : String) : (simple text).LineSafe ↔ ¬HasLineEnd text := by
  simp [LineSafe, lines]

@[simp] theorem lineSafe_error (text : String) : (error text).LineSafe ↔ ¬HasLineEnd text := by
  simp [LineSafe, lines]

@[simp] theorem lineSafe_integer (value : Int64) : (integer value).LineSafe := by
  simp [LineSafe, lines]

@[simp] theorem lineSafe_bulk (data : Bytes) : (bulk data).LineSafe := by
  simp [LineSafe, lines]

@[simp] theorem lineSafe_null : null.LineSafe := by
  simp [LineSafe, lines]

theorem lineSafe_array {elements : List Frame} (safe : ∀ element ∈ elements, element.LineSafe) :
    (array elements).LineSafe := by
  intro text line
  obtain ⟨element, member, inElement⟩ := mem_linesEach.mp line
  exact safe element member text inElement

theorem lineSafe_failure (message : String) :
    (failure message).LineSafe ↔ ¬HasLineEnd message := by
  rw [failure, lineSafe_error, hasLineEnd_append_left (by decide)]

end Frame

/-! ## Failures -/

namespace Failure

theorem lineSafe_wrongNumberOfArguments (name : String) :
    (wrongNumberOfArguments name).reply.LineSafe ↔ ¬HasLineEnd name := by
  change (Frame.failure (_ ++ lowercase name ++ _)).LineSafe ↔ _
  rw [Frame.lineSafe_failure, hasLineEnd_append_right (by decide),
    hasLineEnd_append_left (by decide), hasLineEnd_lowercase]

theorem lineSafe_unknownSubcommand (subcommand : String) :
    (Request.unknownSubcommand subcommand).reply.LineSafe ↔ ¬HasLineEnd subcommand := by
  change (Frame.failure (_ ++ lowercase subcommand ++ _)).LineSafe ↔ _
  rw [Frame.lineSafe_failure, hasLineEnd_append_right (by decide),
    hasLineEnd_append_left (by decide), hasLineEnd_lowercase]

/-- The reply to a failure holds no line end. -/
abbrev IsSafe (cause : Failure) : Prop :=
  cause.reply.LineSafe

theorem isSafe_of_reply {cause : Failure} {message : String}
    (reply : cause.reply = Frame.failure message) (plain : IsPlain message) : cause.IsSafe := by
  rw [IsSafe, reply, Frame.lineSafe_failure]
  exact plain.notHasLineEnd

theorem isSafe_notText : notText.IsSafe :=
  isSafe_of_reply rfl (by decide)

theorem isSafe_notInteger : notInteger.IsSafe :=
  isSafe_of_reply rfl (by decide)

theorem isSafe_notFloat : notFloat.IsSafe :=
  isSafe_of_reply rfl (by decide)

theorem isSafe_overflow : overflow.IsSafe :=
  isSafe_of_reply rfl (by decide)

theorem isSafe_badOption : badOption.IsSafe :=
  isSafe_of_reply rfl (by decide)

theorem isSafe_internal (message : String) : (internal message).IsSafe :=
  isSafe_of_reply rfl (by decide)

theorem isSafe_otherShape : otherShape.IsSafe := by
  change (Frame.error ("WRONGTYPE " ++ _)).LineSafe
  rw [Frame.lineSafe_error, hasLineEnd_append_left (by decide)]
  exact IsPlain.notHasLineEnd (by decide)

end Failure

/-- What an outcome calls for at once holds no line end in a line. -/
def Outcome.IsSafe (outcome : Outcome) : Prop :=
  ∀ frame ∈ outcome.response?, frame.LineSafe

theorem Outcome.isSafe_reply (frame : Frame) : (Outcome.reply frame).IsSafe ↔ frame.LineSafe := by
  simp [IsSafe, response?]

theorem Outcome.isSafe_failed {cause : Failure} (safe : cause.IsSafe) :
    (Outcome.failed cause).IsSafe := by
  intro frame response
  have replied : cause.response? = some frame := response
  unfold Failure.response? at replied
  split at replied
  · cases replied
  · cases replied
    exact safe

theorem Outcome.isSafe_failed_iff {cause : Failure} (whole : cause.isIo = false) :
    (Outcome.failed cause).IsSafe ↔ cause.IsSafe := by
  rw [IsSafe, response?, Failure.response?, whole, if_neg Bool.false_ne_true]
  simp only [Option.mem_some_iff, forall_eq']

/-! ## Names -/

theorem isPlain_name (kind : CommandKind) : IsPlain kind.name := by
  cases kind <;> decide

/-- The name of a known command is that of its kind, but for its capitals. -/
theorem name_of_known {name : String} (known : CommandKind.ofName name ≠ .unknown) :
    (CommandKind.ofName name).name = String.ofList (name.toList.map Char.toUpper) := by
  unfold CommandKind.ofName at known ⊢
  cases found : CommandKind.ofName? name with
  | none =>
      rw [found] at known
      exact absurd rfl known
  | some kind =>
      unfold CommandKind.ofName? at found
      simpa using List.find?_some found

/-- The name of a known command holds letters only. -/
theorem isPlain_of_known {name : String} (known : CommandKind.ofName name ≠ .unknown) :
    IsPlain name := by
  intro char member
  have capital : IsInner char.toUpper := by
    apply isPlain_name (CommandKind.ofName name)
    rw [name_of_known known, String.toList_ofList]
    exact List.mem_map_of_mem member
  -- both characters that end a line are their own capitals
  constructor
  all_goals
    rintro rfl
    revert capital
    decide

/-! ## What readers refuse -/

/-- All failures of the readers of arguments are accepted, but for a subcommand that is unknown. -/
structure RefusalsAre (accepted : Failure → Prop) (name : String) : Prop where
  notText : accepted .notText
  notInteger : accepted .notInteger
  notFloat : accepted .notFloat
  badOption : accepted .badOption
  badLifetime : accepted Request.invalidLifetime
  miscounted : accepted (.wrongNumberOfArguments name)
  unimplemented : ∀ message, accepted (.internal message)

/-- No refusal but one repeats an argument. -/
theorem refusalsAre_safe {name : String} (inner : ¬HasLineEnd name) :
    RefusalsAre Failure.IsSafe name where
  notText := Failure.isSafe_notText
  notInteger := Failure.isSafe_notInteger
  notFloat := Failure.isSafe_notFloat
  badOption := Failure.isSafe_badOption
  badLifetime := Failure.isSafe_of_reply rfl (by decide)
  miscounted := (Failure.lineSafe_wrongNumberOfArguments name).mpr inner
  unimplemented := Failure.isSafe_internal

namespace ArgumentReader

/-- Every failure of a reader is an accepted one. -/
def Refuses (accepted : Failure → Prop) (reader : ArgumentReader α) : Prop :=
  ∀ arguments failure, reader arguments = .error failure → accepted failure

section Combinators

variable {accepted : Failure → Prop}

theorem refuses_pure (value : α) : Refuses accepted (pure value : ArgumentReader α) := by
  intro arguments failure refused
  cases refused

theorem refuses_throw {failure : Failure} (right : accepted failure) :
    Refuses accepted (throw failure : ArgumentReader α) := by
  intro arguments thrown refused
  cases refused
  exact right

theorem refuses_lift {reading : Except Failure α}
    (right : ∀ failure, reading = .error failure → accepted failure) :
    Refuses accepted (liftM reading : ArgumentReader α) := by
  intro arguments failure refused
  cases reading with
  | error cause =>
      cases refused
      exact right _ rfl
  | ok value => cases refused

theorem bind_apply (first : ArgumentReader α) (next : α → ArgumentReader β)
    (arguments : List Bytes) :
    (first >>= next) arguments =
      match first arguments with
      | .error failure => .error failure
      | .ok (value, rest) => next value rest := by
  change (first arguments >>= fun read => next read.1 read.2) = _
  cases first arguments <;> rfl

theorem refuses_bind {first : ArgumentReader α} {next : α → ArgumentReader β}
    (begun : Refuses accepted first) (later : ∀ value, Refuses accepted (next value)) :
    Refuses accepted (first >>= next) := by
  intro arguments failure refused
  rw [bind_apply] at refused
  split at refused
  · rename_i failed
    cases refused
    exact begun _ _ failed
  · exact later _ _ _ refused

theorem refuses_map {reader : ArgumentReader α} (begun : Refuses accepted reader)
    (change : α → β) : Refuses accepted (change <$> reader) :=
  refuses_bind begun fun value => refuses_pure (change value)

theorem refuses_hasMore : Refuses accepted hasMore := by
  intro arguments failure refused
  cases refused

theorem refuses_remaining : Refuses accepted remaining := by
  intro arguments failure refused
  cases refused

end Combinators

section Readers

variable {accepted : Failure → Prop} {name : String} (right : RefusalsAre accepted name)

include right

theorem refuses_octets : Refuses accepted (octets name) := by
  intro arguments failure refused
  cases arguments with
  | nil =>
      cases refused
      exact right.miscounted
  | cons argument rest => cases refused

theorem refuses_text : Refuses accepted (text name) := by
  refine refuses_bind (refuses_octets right) fun argument => ?_
  split
  · exact refuses_throw right.notText
  · exact refuses_pure _

theorem refuses_integer : Refuses accepted (integer name) := by
  refine refuses_bind (refuses_octets right) fun argument => ?_
  split
  · exact refuses_throw right.notInteger
  · exact refuses_pure _

theorem refuses_float : Refuses accepted (float name) := by
  refine refuses_bind (refuses_octets right) fun argument => ?_
  split
  · exact refuses_throw right.notFloat
  · exact refuses_pure _

theorem accepted_of_textsOf {arguments : List Bytes} {failure : Failure}
    (refused : textsOf arguments = .error failure) : accepted failure := by
  induction arguments generalizing failure with
  | nil => cases refused
  | cons argument rest inductionHypothesis =>
      rw [textsOf] at refused
      split at refused
      · cases refused
        exact right.notText
      · split at refused
        · rename_i refusedRest
          cases refused
          exact inductionHypothesis refusedRest
        · cases refused

theorem refuses_texts : Refuses accepted texts :=
  refuses_bind refuses_remaining fun _ => refuses_lift fun _ => accepted_of_textsOf right

theorem refuses_someTexts : Refuses accepted (someTexts name) :=
  refuses_bind (refuses_text right) fun _ =>
    refuses_bind (refuses_texts right) fun _ => refuses_pure _

theorem refuses_finish : Refuses accepted (finish name) := by
  refine refuses_bind refuses_hasMore fun more => ?_
  split
  · exact refuses_throw right.miscounted
  · exact refuses_pure _

end Readers

end ArgumentReader

namespace Request

open ArgumentReader

section Readers

variable {accepted : Failure → Prop} {name : String} (right : RefusalsAre accepted name)

include right

theorem accepted_of_setOptions {lifetime : Option Duration} {condition : Option SetCondition}
    {arguments : List Bytes} {failure : Failure}
    (refused : setOptions name lifetime condition arguments = .error failure) :
    accepted failure := by
  fun_induction setOptions name lifetime condition arguments with
  | case1 => cases refused
  | case2 =>
      cases refused
      exact right.notText
  | case3 =>
      cases refused
      exact right.miscounted
  | case4 =>
      cases refused
      exact right.notInteger
  | case5 =>
      cases refused
      exact right.badLifetime
  | case9 =>
      cases refused
      exact right.badOption
  | case6 _ _ _ _ _ _ _ _ _ _ _ _ _ inductionHypothesis => exact inductionHypothesis refused
  | case7 _ _ _ _ _ _ _ _ _ inductionHypothesis => exact inductionHypothesis refused
  | case8 _ _ _ _ _ _ _ _ _ _ inductionHypothesis => exact inductionHypothesis refused

theorem accepted_of_shutdownOptions {arguments : List Bytes} {failure : Failure}
    (refused : shutdownOptions arguments = .error failure) : accepted failure := by
  fun_induction shutdownOptions arguments with
  | case1 => cases refused
  | case2 =>
      cases refused
      exact right.notText
  | case4 =>
      cases refused
      exact right.badOption
  | case3 _ _ _ _ _ inductionHypothesis => exact inductionHypothesis refused

theorem accepted_of_keyPairs {arguments : List Bytes} {failure : Failure}
    (refused : keyPairs name arguments = .error failure) : accepted failure := by
  fun_induction keyPairs name arguments generalizing failure with
  | case1 => cases refused
  | case2 =>
      cases refused
      exact right.miscounted
  | case3 =>
      cases refused
      exact right.notText
  | case4 _ _ _ _ _ _ refusedRest inductionHypothesis =>
      cases refused
      exact inductionHypothesis refusedRest
  | case5 => cases refused

/-- A reader refuses arguments with an accepted failure; one kind has subcommands. -/
theorem reader_refuses {kind : CommandKind}
    (known : kind = .config → ∀ subcommand, accepted (unknownSubcommand subcommand)) :
    Refuses accepted (reader kind name) := by
  -- the rules follow the text of each reader
  cases kind <;> unfold reader
  all_goals try unfold oneKey
  all_goals
    repeat'
      with_reducible first
      | exact refuses_octets right
      | exact refuses_text right
      | exact refuses_integer right
      | exact refuses_float right
      | exact refuses_someTexts right
      | exact refuses_finish right
      | exact refuses_map (refuses_octets right) _
      | exact refuses_hasMore
      | exact refuses_remaining
      | exact refuses_texts right
      | exact refuses_lift fun _ => accepted_of_setOptions right
      | exact refuses_lift fun _ => accepted_of_shutdownOptions right
      | exact refuses_lift fun _ => accepted_of_keyPairs right
      | exact refuses_throw right.miscounted
      | exact refuses_throw right.badOption
      | exact refuses_throw (right.unimplemented _)
      | exact refuses_throw (known rfl _)
      | refine refuses_bind ?_ fun value => ?_
      | exact refuses_pure _
      | split
      | dsimp only

end Readers

theorem accepted_of_ofCommand {accepted : Failure → Prop} {command : Command} {failure : Failure}
    (right : RefusalsAre accepted command.name)
    (known : command.kind = .config → ∀ subcommand, accepted (unknownSubcommand subcommand))
    (refused : ofCommand command = .error failure) : accepted failure := by
  unfold ofCommand ArgumentReader.run at refused
  cases read : reader command.kind command.name command.arguments with
  | ok pair =>
      rw [StateT.run, read] at refused
      cases refused
  | error cause =>
      rw [StateT.run, read] at refused
      cases refused
      exact reader_refuses right known _ _ read

end Request

/-! ## What the store refuses -/

namespace Store

/-- All failures of the operations of the store are accepted. -/
structure FailuresAre (accepted : Failure → Prop) : Prop where
  otherShape : accepted .otherShape
  notInteger : accepted .notInteger
  overflow : accepted .overflow

theorem failuresAre_safe : FailuresAre Failure.IsSafe :=
  ⟨Failure.isSafe_otherShape, Failure.isSafe_notInteger, Failure.isSafe_overflow⟩

section Operations

variable {accepted : Failure → Prop} {store : Store} {key : String} {failure : Failure}
  (right : FailuresAre accepted)

include right

theorem accepted_of_text? (refused : store.text? key = .error failure) : accepted failure := by
  unfold text? at refused
  split at refused <;> cases refused
  exact right.otherShape

theorem accepted_of_hash? (refused : store.hash? key = .error failure) : accepted failure := by
  unfold hash? at refused
  split at refused <;> cases refused
  exact right.otherShape

theorem accepted_of_append {suffix : Bytes} (refused : store.append key suffix = .error failure) :
    accepted failure := by
  unfold append at refused
  split at refused <;> cases refused
  exact accepted_of_text? right ‹_›

theorem accepted_of_add {type : IntegerType} {increment : Int}
    (refused : store.add type key increment = .error failure) : accepted failure := by
  unfold add at refused
  split at refused
  · cases refused
    exact accepted_of_text? right ‹_›
  · split at refused
    · cases refused
      exact right.notInteger
    · dsimp only at refused
      split at refused <;> cases refused
      exact right.overflow

theorem accepted_of_field? {field : Bytes} (refused : store.field? key field = .error failure) :
    accepted failure := by
  unfold field? at refused
  split at refused <;> cases refused
  exact accepted_of_hash? right ‹_›

theorem accepted_of_fields (refused : store.fields key = .error failure) : accepted failure := by
  unfold fields at refused
  split at refused <;> cases refused
  exact accepted_of_hash? right ‹_›

theorem accepted_of_setField {field value : Bytes}
    (refused : store.setField key field value = .error failure) : accepted failure := by
  unfold setField at refused
  split at refused <;> cases refused
  exact accepted_of_hash? right ‹_›

theorem accepted_of_setFields {pairs : List (Bytes × Bytes)}
    (refused : (store.setFields key pairs).1 = .error failure) : accepted failure := by
  fun_induction setFields store key pairs with
  | case1 => cases refused
  | case2 _ field value _ cause failed =>
      cases refused
      exact accepted_of_setField right failed
  | case3 _ _ _ _ _ _ _ added _ result inductionHypothesis =>
      rw [result] at inductionHypothesis
      cases added with
      | error cause => exact inductionHypothesis refused
      | ok count => cases refused

theorem accepted_of_removeFields {names : List Bytes}
    (refused : store.removeFields key names = .error failure) : accepted failure := by
  unfold removeFields at refused
  split at refused
  · cases refused
    exact accepted_of_hash? right ‹_›
  · cases refused
  · dsimp only at refused
    split at refused <;> cases refused

end Operations

end Store

end RespServer
