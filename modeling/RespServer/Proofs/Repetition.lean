import RespServer.Proofs.Answering

/-!
Contract: which replies repeat what the client sent.

Owns:
- `Command.repeated?`, the text of a command that its reply repeats in a line;
- that the reply to a command is safe exactly if this text holds no line end.

Does not own: which commands are carried out in a run (`Proofs.Forgery`).

Octets that a client sent go back with their count, so they may hold anything. Only an unknown
command name, an unknown subcommand, an unknown parameter and a bad value go back in a line.
-/

namespace RespServer

open Text

/-! ## What silent requests answer -/

namespace Request

open ArgumentReader

/-- The readers of all kinds but three yield requests that repeat nothing. -/
theorem reader_yields_silent {kind : CommandKind} (notClient : kind ≠ .client)
    (notConfig : kind ≠ .config) (known : kind ≠ .unknown) (name : String) :
    Yields (reader kind name) fun _ request => request.repeats = false := by
  intro arguments request rest read
  cases reader_yields kind name arguments request rest read with
  | client => exact absurd rfl notClient
  | changeSetting => exact absurd rfl notConfig
  | unknown => exact absurd rfl known
  | _ => rfl

theorem lineSafe_ok : Frame.ok.LineSafe :=
  (Frame.lineSafe_simple _).mpr (by decide)

/-- Failures and replies that repeat no text hold no line end in a line. -/
theorem answersAre_safe : AnswersAre Failure.IsSafe Frame.LineSafe where
  store := Store.failuresAre_safe
  notFloat := Failure.isSafe_notFloat
  notFinite := Failure.isSafe_of_reply rfl (by decide)
  badIndex := Failure.isSafe_of_reply rfl (by decide)
  integer := Frame.lineSafe_integer
  bulk := Frame.lineSafe_bulk
  null := Frame.lineSafe_null
  simple text plain := (Frame.lineSafe_simple text).mpr plain.notHasLineEnd
  error text plain := (Frame.lineSafe_error text).mpr plain.notHasLineEnd
  bulks elements bulks := by
    refine Frame.lineSafe_array fun element member => ?_
    obtain ⟨data, rfl⟩ := bulks element member
    exact Frame.lineSafe_bulk data

/-- A request that repeats nothing is answered without a line end. -/
theorem isSafe_run {request : Request} (silent : request.repeats = false) (scene : Scene) :
    (request.run scene).1.IsSafe := by
  have meets := meets_run answersAre_safe silent scene
  generalize (request.run scene).1 = outcome at meets
  cases meets with
  | reply right => exact (Outcome.isSafe_reply _).mpr right
  | failed right => exact Outcome.isSafe_failed right
  | deferred | aborted => exact nofun

end Request

/-! ## What commands repeat -/

namespace Request

/-- The subcommand of what client libraries say about themselves, if it is none of them. -/
def repeatedOfClient? (subcommand : String) : Option String :=
  if uppercase subcommand ∈ ["SETINFO", "SETNAME", "GETNAME"] then none else some subcommand

/-- The text of a change of a setting that its reply repeats in a line: a parameter that cannot be
changed, or a value that is no switch. -/
def repeatedOfChange? (parameter value : String) : Option String :=
  if lowercase parameter = unsupportedSetting then
    if switch? value = none then some value else none
  else some parameter

/-- What is repeated of arguments that begin with a text, given the text and what follows it. -/
def repeatedFrom? (repeated? : String → List Bytes → Option String) :
    List Bytes → Option String
  | [] => none
  | first :: rest => (Bytes.text? first).bind fun text => repeated? text rest

/-- The text that the reply to a command about settings repeats in a line, if any. A change has a
parameter and a value, and nothing behind them. -/
def repeatedOfConfig? (subcommand : String) (arguments : List Bytes) : Option String :=
  if uppercase subcommand = "GET" then none
  else if uppercase subcommand = "SET" then
    repeatedFrom? (fun parameter => repeatedFrom? fun value rest =>
      if rest = [] then repeatedOfChange? parameter value else none) arguments
  else some subcommand

end Request

namespace Command

/-- The text of a command that its reply repeats in a line, if any. -/
def repeated? (command : Command) : Option String :=
  match command.kind with
  | .unknown => some command.name
  | .client =>
      Request.repeatedFrom? (fun subcommand _ => Request.repeatedOfClient? subcommand)
        command.arguments
  | .config => Request.repeatedFrom? Request.repeatedOfConfig? command.arguments
  | _ => none

/-- What the reply to the command repeats in a line holds a line end. -/
def RepeatsLineEnd (command : Command) : Prop :=
  ∃ text ∈ command.repeated?, HasLineEnd text

instance (command : Command) : Decidable command.RepeatsLineEnd :=
  inferInstanceAs (Decidable (∃ text ∈ command.repeated?, HasLineEnd text))

theorem not_repeatsLineEnd (command : Command) :
    ¬command.RepeatsLineEnd ↔ ∀ text ∈ command.repeated?, ¬HasLineEnd text := by
  simp [RepeatsLineEnd]

/-- The command is of the kind that its name says. -/
def IsNamed (command : Command) : Prop :=
  command.kind = CommandKind.ofName command.name

theorem isNamed_new (name : String) (arguments : List Bytes) : (new name arguments).IsNamed :=
  rfl

end Command

namespace Request

open ArgumentReader

/-! ### Reading and carrying out -/

/-- Carries out what a reader makes of arguments. -/
def carryOut (reader : ArgumentReader Request) (arguments : List Bytes) (scene : Scene) :
    Outcome × Scene :=
  match reader.run arguments with
  | .error cause => (.failed cause, scene)
  | .ok request => request.run scene

/-- Only what is read counts, and not how. -/
theorem carryOut_congr {reader other : ArgumentReader Request} {arguments rest : List Bytes}
    (same : reader arguments = other rest) (scene : Scene) :
    carryOut reader arguments scene = carryOut other rest scene := by
  have sameRun : reader.run arguments = other.run rest := congrArg (Except.map Prod.fst) same
  rw [carryOut, carryOut, sameRun]

theorem carryOut_of_error {reader : ArgumentReader Request} {arguments : List Bytes}
    {cause : Failure} (refused : reader arguments = .error cause) (scene : Scene) :
    carryOut reader arguments scene = (.failed cause, scene) := by
  have failed : reader.run arguments = .error cause := congrArg (Except.map Prod.fst) refused
  rw [carryOut, failed]

theorem carryOut_of_ok {reader : ArgumentReader Request} {arguments rest : List Bytes}
    {request : Request} (read : reader arguments = .ok (request, rest)) (scene : Scene) :
    carryOut reader arguments scene = request.run scene := by
  have yielded : reader.run arguments = .ok request := congrArg (Except.map Prod.fst) read
  rw [carryOut, yielded]

/-- A reader that refuses safely and yields nothing that repeats a text leads to safe replies. -/
theorem isSafe_carryOut {reader : ArgumentReader Request} (refuses : Refuses Failure.IsSafe reader)
    (yields : Yields reader fun _ request => request.repeats = false) (arguments : List Bytes)
    (scene : Scene) : (carryOut reader arguments scene).1.IsSafe := by
  cases read : reader arguments with
  | error cause =>
      rw [carryOut_of_error read]
      exact Outcome.isSafe_failed (refuses _ _ read)
  | ok pair =>
      have silent := yields _ _ _ read
      rw [carryOut_of_ok read]
      exact isSafe_run silent scene

theorem text_bind_cons (name : String) (next : String → ArgumentReader α) (argument : Bytes)
    (rest : List Bytes) :
    (text name >>= next) (argument :: rest) =
      match Bytes.text? argument with
      | none => .error .notText
      | some text => next text rest := by
  have read : text name (argument :: rest) =
      match Bytes.text? argument with
      | none => .error .notText
      | some text => .ok (text, rest) := by
    rw [text, bind_apply, octets]
    dsimp only
    cases Bytes.text? argument <;> rfl
  rw [bind_apply, read]
  cases Bytes.text? argument <;> rfl

theorem finish_bind (name : String) (next : Unit → ArgumentReader α) (arguments : List Bytes) :
    (finish name >>= next) arguments =
      if arguments = [] then next () [] else .error (.wrongNumberOfArguments name) := by
  cases arguments <;> rfl

/-! ### Single kinds -/

theorem isSafe_runClient (subcommand : String) :
    (runClient (uppercase subcommand)).IsSafe ↔
      ∀ text ∈ repeatedOfClient? subcommand, ¬HasLineEnd text := by
  unfold runClient repeatedOfClient?
  by_cases known : uppercase subcommand ∈ ["SETINFO", "SETNAME", "GETNAME"]
  · rw [if_pos known]
    refine iff_of_true ?_ fun _ none => (Option.not_mem_none _ none).elim
    split
    · exact (Outcome.isSafe_reply _).mpr lineSafe_ok
    · split
      · exact (Outcome.isSafe_reply _).mpr Frame.lineSafe_null
      · simp_all
  · have others : ¬(uppercase subcommand = "SETINFO" ∨ uppercase subcommand = "SETNAME") ∧
        ¬uppercase subcommand = "GETNAME" := by simpa [and_assoc] using known
    rw [if_neg known, if_neg others.1, if_neg others.2, Outcome.isSafe_failed_iff rfl,
      Failure.IsSafe, Failure.lineSafe_unknownSubcommand, hasLineEnd_uppercase]
    simp only [Option.mem_some_iff, forall_eq']

theorem isPlain_of_fixed {parameter : String} (fixed : parameter ∈ fixedSettings) :
    IsPlain parameter := by
  revert parameter
  decide

theorem isSafe_runChangeSetting (parameter value : String) (scene : Scene) :
    (runChangeSetting (lowercase parameter) value scene).1.IsSafe ↔
      ∀ text ∈ repeatedOfChange? parameter value, ¬HasLineEnd text := by
  unfold runChangeSetting repeatedOfChange?
  split
  · rename_i fixed
    have plain := isPlain_of_fixed fixed
    have other : lowercase parameter ≠ unsupportedSetting := by
      intro same
      rw [same] at fixed
      revert fixed
      decide
    have inner : ¬HasLineEnd parameter := by
      rw [← hasLineEnd_lowercase]
      exact plain.notHasLineEnd
    rw [if_neg other]
    simp only [Option.mem_some_iff, forall_eq']
    refine ⟨fun _ => inner, fun _ => Outcome.isSafe_failed ?_⟩
    rw [Failure.IsSafe]
    change (Frame.failure (_ ++ lowercase parameter ++ _)).LineSafe
    rw [Frame.lineSafe_failure, hasLineEnd_append_right (by decide),
      hasLineEnd_append_left (by decide)]
    exact plain.notHasLineEnd
  · split
    · rename_i other
      rw [Outcome.isSafe_failed_iff rfl, Failure.IsSafe]
      simp only [Option.mem_some_iff, forall_eq']
      change (Frame.failure (_ ++ lowercase parameter ++ _)).LineSafe ↔ _
      rw [Frame.lineSafe_failure, hasLineEnd_append_right (by decide),
        hasLineEnd_append_left (by decide), hasLineEnd_lowercase]
    · rename_i same
      have same : lowercase parameter = unsupportedSetting := Decidable.not_not.mp same
      rw [if_pos same]
      cases switch? value with
      | none =>
          rw [if_pos rfl, Outcome.isSafe_failed_iff rfl, Failure.IsSafe, same]
          simp only [Option.mem_some_iff, forall_eq']
          change (Frame.failure (_ ++ value ++ _ ++ _ ++ _)).LineSafe ↔ _
          rw [Frame.lineSafe_failure, hasLineEnd_append_right (by decide),
            hasLineEnd_append_right (by decide), hasLineEnd_append_right (by decide),
            hasLineEnd_append_left (by decide)]
      | some allowed =>
          refine ⟨fun _ text member => ?_, fun _ => (Outcome.isSafe_reply _).mpr lineSafe_ok⟩
          cases member

section Kinds

variable {name : String} (inner : ¬HasLineEnd name)

include inner

/-- If a reader begins with a text, what it makes of that text and of the rest decides whether the
reply is safe. -/
theorem isSafe_text_iff {next : String → ArgumentReader Request}
    {repeated? : String → List Bytes → Option String} {scene : Scene}
    (later : ∀ read rest, (carryOut (next read) rest scene).1.IsSafe ↔
      ∀ text ∈ repeated? read rest, ¬HasLineEnd text) (arguments : List Bytes) :
    (carryOut (text name >>= next) arguments scene).1.IsSafe ↔
      ∀ text ∈ repeatedFrom? repeated? arguments, ¬HasLineEnd text := by
  have refused : ∀ {cause : Failure}, cause.IsSafe →
      (text name >>= next) arguments = .error cause → repeatedFrom? repeated? arguments = none →
      ((carryOut (text name >>= next) arguments scene).1.IsSafe ↔
        ∀ text ∈ repeatedFrom? repeated? arguments, ¬HasLineEnd text) := by
    intro cause safe failed nothing
    rw [carryOut_of_error failed, nothing]
    exact iff_of_true (Outcome.isSafe_failed safe) fun _ none => (Option.not_mem_none _ none).elim
  match arguments with
  | [] => exact refused ((Failure.lineSafe_wrongNumberOfArguments name).mpr inner) rfl rfl
  | first :: rest =>
      have behind := text_bind_cons name next first rest
      cases spelled : Bytes.text? first with
      | none =>
          rw [spelled] at behind
          refine refused Failure.isSafe_notText behind ?_
          rw [repeatedFrom?, spelled, Option.bind_none]
      | some read =>
          rw [spelled] at behind
          rw [carryOut_congr behind, repeatedFrom?, spelled, Option.bind_some]
          exact later read rest

theorem isSafe_client_iff (arguments : List Bytes) (scene : Scene) :
    (carryOut (reader .client name) arguments scene).1.IsSafe ↔
      ∀ text ∈ repeatedFrom? (fun subcommand _ => repeatedOfClient? subcommand) arguments,
        ¬HasLineEnd text := by
  refine isSafe_text_iff inner (fun subcommand rest => ?_) arguments
  exact isSafe_runClient subcommand

theorem isSafe_change_iff (parameter value : String) (arguments : List Bytes) (scene : Scene) :
    (carryOut (do
        finish name
        return .changeSetting (lowercase parameter) value) arguments scene).1.IsSafe ↔
      ∀ text ∈ if arguments = [] then repeatedOfChange? parameter value else none,
        ¬HasLineEnd text := by
  have finished := finish_bind name (fun _ => pure (changeSetting (lowercase parameter) value))
    arguments
  split at finished
  · rename_i nothing
    rw [if_pos nothing, carryOut_of_ok finished]
    exact isSafe_runChangeSetting parameter value scene
  · rename_i more
    rw [if_neg more, carryOut_of_error finished]
    refine iff_of_true (Outcome.isSafe_failed ?_) fun _ none => (Option.not_mem_none _ none).elim
    exact (Failure.lineSafe_wrongNumberOfArguments name).mpr inner

theorem isSafe_config_iff (arguments : List Bytes) (scene : Scene) :
    (carryOut (reader .config name) arguments scene).1.IsSafe ↔
      ∀ text ∈ repeatedFrom? repeatedOfConfig? arguments, ¬HasLineEnd text := by
  refine isSafe_text_iff inner (fun subcommand rest => ?_) arguments
  unfold repeatedOfConfig?
  by_cases isGet : uppercase subcommand = "GET"
  · rw [if_pos isGet, if_pos isGet]
    refine iff_of_true ?_ fun _ none => (Option.not_mem_none _ none).elim
    refine isSafe_carryOut ?_ ?_ rest scene
    · have right := refusalsAre_safe inner
      exact refuses_bind (refuses_text right) fun _ =>
        refuses_bind (refuses_finish right) fun _ => refuses_pure _
    · exact yields_bind fun _ => yields_bind fun _ => yields_pure fun _ _ _ => rfl
  · rw [if_neg isGet, if_neg isGet]
    by_cases isSet : uppercase subcommand = "SET"
    · rw [if_pos isSet, if_pos isSet]
      refine isSafe_text_iff inner (fun parameter behind => ?_) rest
      refine isSafe_text_iff inner (fun value left => ?_) behind
      exact isSafe_change_iff inner parameter value left scene
    · rw [if_neg isSet, if_neg isSet]
      change (Outcome.failed (unknownSubcommand (uppercase subcommand))).IsSafe ↔ _
      rw [Outcome.isSafe_failed_iff rfl, Failure.IsSafe, Failure.lineSafe_unknownSubcommand,
        hasLineEnd_uppercase]
      simp only [Option.mem_some_iff, forall_eq']

end Kinds

end Request

/-- The reply to a command holds a line end in a line exactly if what it repeats does. -/
theorem Command.isSafe_execute_iff {command : Command} (named : command.IsNamed) (scene : Scene) :
    (command.execute scene).1.IsSafe ↔ ¬command.RepeatsLineEnd := by
  rw [not_repeatsLineEnd]
  change (Request.carryOut (Request.reader command.kind command.name) command.arguments
    scene).1.IsSafe ↔ _
  have inner : command.kind ≠ .unknown → ¬HasLineEnd command.name := by
    intro known
    rw [named] at known
    exact (isPlain_of_known known).notHasLineEnd
  -- the name is plain for all kinds but the first, whose reply repeats it
  unfold repeated?
  split
  · rename_i isUnknown
    rw [isUnknown]
    change (Outcome.reply (.failure (_ ++ command.name ++ _))).IsSafe ↔ _
    rw [Outcome.isSafe_reply, Frame.lineSafe_failure, hasLineEnd_append_right (by decide),
      hasLineEnd_append_left (by decide)]
    simp only [Option.mem_some_iff, forall_eq']
  · rename_i isClient
    rw [isClient]
    exact Request.isSafe_client_iff (inner (by rw [isClient]; decide)) command.arguments scene
  · rename_i isConfig
    rw [isConfig]
    exact Request.isSafe_config_iff (inner (by rw [isConfig]; decide)) command.arguments scene
  · rename_i known notClient notConfig
    refine iff_of_true ?_ fun _ none => (Option.not_mem_none _ none).elim
    exact Request.isSafe_carryOut
      (Request.reader_refuses (refusalsAre_safe (inner known)) fun same => absurd same notConfig)
      (Request.reader_yields_silent notClient notConfig known command.name) command.arguments scene

end RespServer
