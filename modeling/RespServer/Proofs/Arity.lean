import RespServer.Proofs.Refusals
import RespServer.Proofs.Storing

/-!
Contract: how many arguments each command takes, and that none is skipped or left over.

Owns:
- `HasArity`, the numbers of arguments that a kind of command takes;
- `Form`, what a reader asks of one argument, and the forms of the arguments that are read;
- `Verdict`, what comes of reading: arguments that fit are all read if their number is right, and
  refused for their number if it is wrong; others are refused;
- that each reader comes to this verdict, but for the options of a command that stores octets;
- that what is read into a list is kept in it.

Does not own: those options (`Proofs.Storing`), and what is asked for by what is read
(`Proofs.Asking`).

The number of arguments is never looked at by itself: a reader stumbles over the one that is
missing, or finds one too many at its end. So an argument in front of the gap that does not fit is
refused first, for what it is.
-/

namespace RespServer

/-! ## Numbers and forms -/

/-- What a reader asks of one argument. -/
inductive Form where
  | octets
  | text
  | integer
  | number
  /-- In capitals, one of these words. -/
  | word (words : List String)

def Form.Fits : Form → Bytes → Prop
  | .octets, _ => True
  | .text, argument => (Bytes.text? argument).isSome
  | .integer, argument => (IntegerType.int64.read? argument).isSome
  | .number, argument => ((Binary64.read? argument).filter Binary64.isFinite).isSome
  | .word words, argument => ∃ word ∈ words, capitals? argument = some word

/-- Arguments have these forms, as far as there are both. -/
def Fit (forms : List Form) (arguments : List Bytes) : Prop :=
  ∀ pair ∈ forms.zip arguments, pair.1.Fits pair.2

namespace CommandKind

/-- Whether a command takes so many arguments. -/
def HasArity (kind : CommandKind) (arguments : List Bytes) : Prop :=
  let count := arguments.length
  match kind with
  | .dbsize | .quit => count = 0
  | .decr | .echo | .get | .getdel | .hgetall | .incr | .keys | .select | .strlen | .ttl
  | .type => count = 1
  | .append | .decrby | .expire | .hget | .incrby | .incrbyfloat | .publish | .setnx => count = 2
  | .flushall | .ping => count ≤ 1
  | .auth => 1 ≤ count ∧ count ≤ 2
  | .config =>
      match arguments.head?.bind capitals? with
      | some "GET" => count = 2
      | some "SET" => count = 3
      | _ => False
  | .client | .del | .exist | .mget => 1 ≤ count
  | .hdel => 2 ≤ count
  | .set => 2 ≤ count ∧ count ≤ 5
  | .mset => 2 ≤ count ∧ count % 2 = 0
  | .hset => 3 ≤ count ∧ count % 2 = 1
  | .info | .shutdown => True
  | .subscribe | .unsubscribe | .exec | .multi | .watch | .unknown => False

/-- The forms of the arguments of kinds that take a fixed number of them. -/
def fixedForms? : CommandKind → Option (List Form)
  | .dbsize | .quit => some []
  | .echo => some [.octets]
  | .decr | .get | .getdel | .hgetall | .incr | .keys | .strlen | .ttl | .type => some [.text]
  | .select => some [.integer]
  | .append | .hget | .publish | .setnx => some [.text, .octets]
  | .decrby | .expire | .incrby => some [.text, .integer]
  | .incrbyfloat => some [.text, .number]
  | _ => none

/-- A text and octets by turns. -/
def formsByTurns : Nat → List Form
  | 0 => []
  | pairs + 1 => .text :: .octets :: formsByTurns pairs

/-- The forms of the arguments that are read, from the first on; of others nothing is asked. -/
def forms (kind : CommandKind) (arguments : List Bytes) : List Form :=
  match kind with
  | .auth => [.octets, .octets]
  | .client | .hset => [.text]
  | .config =>
      .word ["GET", "SET"] :: .text ::
        if arguments.head?.bind capitals? = some "SET" then [.text] else []
  | .del | .exist | .info | .mget => List.replicate arguments.length .text
  | .flushall => [.word ["ASYNC", "SYNC"]]
  | .hdel => [.text, .octets]
  | .mset => if arguments.length % 2 = 0 then formsByTurns (arguments.length / 2) else []
  | .ping => [.octets]
  | .shutdown =>
      List.replicate arguments.length (.word ["SAVE", "NOSAVE", "NOW", "FORCE"])
  | _ => kind.fixedForms?.getD []

/-- The arguments that are read fit their positions. -/
def WellFormed (kind : CommandKind) (arguments : List Bytes) : Prop :=
  Fit (kind.forms arguments) arguments

end CommandKind

@[simp] theorem fit_nil_left (arguments : List Bytes) : Fit [] arguments := by
  simp [Fit]

@[simp] theorem fit_nil_right (forms : List Form) : Fit forms [] := by
  simp [Fit]

@[simp] theorem fit_cons {form : Form} {forms : List Form} {argument : Bytes}
    {rest : List Bytes} :
    Fit (form :: forms) (argument :: rest) ↔ form.Fits argument ∧ Fit forms rest := by
  simp [Fit]

/-! ## Verdicts -/

theorem Form.not_fits_word {words : List String} {argument : Bytes}
    (unspelled : Bytes.text? argument = none) : ¬(Form.word words).Fits argument := by
  simp [Form.Fits, capitals?, unspelled]

theorem Form.fits_word_iff {words : List String} {argument : Bytes} {text : String}
    (spelled : Bytes.text? argument = some text) :
    (Form.word words).Fits argument ↔ Text.uppercase text ∈ words := by
  simp [Form.Fits, capitals?_of_text? spelled]

namespace ArgumentReader

/-- What comes of reading arguments, depending on whether they fit their positions and whether
their number is right. -/
structure Verdict (name : String) (result : Except Failure (α × List Bytes))
    (fits counted : Prop) : Prop where
  read : fits → counted → ∃ value, result = .ok (value, [])
  miscounted : fits → ¬counted → result = .error (.wrongNumberOfArguments name)
  misfit : ¬fits → ∃ cause, result = .error cause

section Verdicts

variable {name : String} {result : Except Failure (α × List Bytes)} {fits counted : Prop}

theorem Verdict.congr (verdict : Verdict name result fits counted) {fitting right : Prop}
    (sameFit : fitting ↔ fits) (sameCount : right ↔ counted) :
    Verdict name result fitting right := by
  rw [sameFit, sameCount]
  exact verdict

theorem verdict_read {value : α} (read : result = .ok (value, [])) (fit : fits) (right : counted) :
    Verdict name result fits counted :=
  ⟨fun _ _ => ⟨value, read⟩, fun _ wrong => absurd right wrong, fun unfit => absurd fit unfit⟩

theorem verdict_miscounted (refused : result = .error (.wrongNumberOfArguments name)) (fit : fits)
    (wrong : ¬counted) : Verdict name result fits counted :=
  ⟨fun _ right => absurd right wrong, fun _ _ => refused, fun unfit => absurd fit unfit⟩

theorem verdict_misfit {cause : Failure} (refused : result = .error cause) (unfit : ¬fits) :
    Verdict name result fits counted :=
  ⟨fun fit => absurd fit unfit, fun fit => absurd fit unfit, fun _ => ⟨cause, refused⟩⟩

/-- Only what fits is read, and only in the right number. -/
theorem Verdict.of_ok (verdict : Verdict name result fits counted) {value : α} {rest : List Bytes}
    (read : result = .ok (value, rest)) : fits ∧ counted ∧ rest = [] := by
  by_cases fit : fits
  · by_cases right : counted
    · obtain ⟨found, whole⟩ := verdict.read fit right
      rw [read] at whole
      cases whole
      exact ⟨fit, right, rfl⟩
    · have refused := verdict.miscounted fit right
      rw [read] at refused
      cases refused
  · obtain ⟨cause, refused⟩ := verdict.misfit fit
    rw [read] at refused
    cases refused

end Verdicts

/-- What is made of the value that is read does not count. -/
theorem Verdict.bind_pure {name : String} {fits counted : Prop} {reader : ArgumentReader α}
    {arguments : List Bytes} (verdict : Verdict name (reader arguments) fits counted)
    (next : α → β) :
    Verdict name ((reader >>= fun value => pure (next value)) arguments) fits counted where
  read fit right := by
    obtain ⟨value, read⟩ := verdict.read fit right
    exact ⟨next value, bind_of_ok _ read⟩
  miscounted fit wrong := bind_of_error _ (verdict.miscounted fit wrong)
  misfit unfit := by
    obtain ⟨cause, refused⟩ := verdict.misfit unfit
    exact ⟨cause, bind_of_error _ refused⟩

/-- A reading of all arguments, of which any number is right. -/
theorem verdict_lift {name : String} {fits : Prop} {reading : Except Failure α}
    (accepts : (∃ value, reading = .ok value) ↔ fits) :
    Verdict name ((liftM reading : ArgumentReader α) []) fits True := by
  cases reading with
  | ok value => exact verdict_read rfl (accepts.mp ⟨value, rfl⟩) trivial
  | error cause =>
      have unfit : ¬fits := fun fit => by
        obtain ⟨value, accepted⟩ := accepts.mpr fit
        cases accepted
      exact verdict_misfit rfl unfit

/-! ### Single arguments -/

variable {name : String}

/-- The reader takes one argument of a form. -/
structure TakesOne (name : String) (form : Form) (reader : ArgumentReader α) : Prop where
  missing : reader [] = .error (.wrongNumberOfArguments name)
  fits : ∀ argument rest, form.Fits argument →
    ∃ value, reader (argument :: rest) = .ok (value, rest)
  misfit : ∀ argument rest, ¬form.Fits argument →
    ∃ cause, reader (argument :: rest) = .error cause

section First

variable {form : Form} {first : ArgumentReader α} {next : α → ArgumentReader β} {rest : List Bytes}
  {fits counted : Prop}

theorem TakesOne.verdict_nil (takesFirst : TakesOne name form first) (fit : fits)
    (wrong : ¬counted) : Verdict name ((first >>= next) []) fits counted :=
  verdict_miscounted (bind_of_error next takesFirst.missing) fit wrong

/-- If the first argument does not fit, nothing else is looked at. -/
theorem TakesOne.verdict_cons (takesFirst : TakesOne name form first) (argument : Bytes)
    (later : ∀ value, Verdict name (next value rest) fits counted) :
    Verdict name ((first >>= next) (argument :: rest)) (form.Fits argument ∧ fits) counted := by
  by_cases fit : form.Fits argument
  · obtain ⟨value, read⟩ := takesFirst.fits argument rest fit
    rw [bind_of_ok next read]
    exact (later value).congr (and_iff_right fit) Iff.rfl
  · obtain ⟨cause, refused⟩ := takesFirst.misfit argument rest fit
    exact verdict_misfit (bind_of_error next refused) fun both => fit both.1

end First

theorem takesOne_octets (name : String) : TakesOne name .octets (octets name) :=
  ⟨rfl, fun argument _ _ => ⟨argument, rfl⟩, fun _ _ unfit => absurd trivial unfit⟩

/-- A reader of octets that are then read as something, or refused. -/
theorem takesOne_of_read? (read? : Bytes → Option α) (cause : Failure) {form : Form}
    {reader : ArgumentReader α}
    (reads : ∀ argument rest, reader (argument :: rest) =
      match read? argument with
      | none => .error cause
      | some value => .ok (value, rest))
    (missing : reader [] = .error (.wrongNumberOfArguments name))
    (asks : ∀ argument, form.Fits argument ↔ (read? argument).isSome) :
    TakesOne name form reader where
  missing := missing
  fits argument rest fit := by
    obtain ⟨value, found⟩ := Option.isSome_iff_exists.mp ((asks argument).mp fit)
    exact ⟨value, by rw [reads, found]⟩
  misfit argument rest unfit := by
    have nothing := Option.not_isSome_iff_eq_none.mp fun some => unfit ((asks argument).mpr some)
    exact ⟨cause, by rw [reads, nothing]⟩

theorem takesOne_text (name : String) : TakesOne name .text (ArgumentReader.text name) := by
  refine takesOne_of_read? Bytes.text? .notText ?_ rfl fun _ => Iff.rfl
  intro argument rest
  cases spelled : Bytes.text? argument with
  | none => exact text_of_none spelled name rest
  | some text => exact text_of_some spelled name rest

theorem takesOne_integer (name : String) : TakesOne name .integer (integer name) := by
  refine takesOne_of_read? IntegerType.int64.read? .notInteger ?_ rfl fun _ => Iff.rfl
  intro argument rest
  rw [integer, bind_of_ok _ (octets_cons name argument rest)]
  cases IntegerType.int64.read? argument <;> rfl

theorem takesOne_float (name : String) : TakesOne name .number (float name) := by
  refine takesOne_of_read? (fun argument => (Binary64.read? argument).filter Binary64.isFinite)
    .notFloat ?_ rfl fun _ => Iff.rfl
  intro argument rest
  rw [float, bind_of_ok _ (octets_cons name argument rest)]
  cases (Binary64.read? argument).filter Binary64.isFinite <;> rfl

/-! ### Fixed numbers -/

/-- The reader takes arguments of these forms, and no more. -/
def Takes (name : String) (forms : List Form) (reader : ArgumentReader α) : Prop :=
  ∀ arguments, Verdict name (reader arguments) (Fit forms arguments)
    (arguments.length = forms.length)

theorem takes_finish (name : String) (value : α) :
    Takes name [] (finish name >>= fun _ => pure value) := by
  intro arguments
  cases arguments with
  | nil => exact verdict_read rfl (fit_nil_left []) rfl
  | cons argument rest =>
      exact verdict_miscounted rfl (fit_nil_left _) (Nat.succ_ne_zero _)

theorem takes_cons {form : Form} {forms : List Form} {first : ArgumentReader α}
    {next : α → ArgumentReader β} (takesFirst : TakesOne name form first)
    (later : ∀ value, Takes name forms (next value)) :
    Takes name (form :: forms) (first >>= next) := by
  intro arguments
  cases arguments with
  | nil => exact takesFirst.verdict_nil (fit_nil_right _) (Nat.succ_ne_zero _).symm
  | cons argument rest =>
      have verdict := takesFirst.verdict_cons argument fun value => later value rest
      exact verdict.congr fit_cons (by simp)

end ArgumentReader

namespace Request

open ArgumentReader CommandKind

variable {name : String}

/-! ## Kinds with a fixed number of arguments -/

theorem reader_takes {kind : CommandKind} {forms : List Form} (name : String)
    (fixed : kind.fixedForms? = some forms) : Takes name forms (reader kind name) := by
  cases kind <;> cases fixed <;> unfold reader
  all_goals try unfold oneKey
  all_goals
    repeat'
      with_reducible first
      | apply takes_finish
      | apply takes_cons (takesOne_text name); intro value
      | apply takes_cons (takesOne_octets name); intro value
      | apply takes_cons (takesOne_integer name); intro value
      | apply takes_cons (takesOne_float name); intro value

/-- What comes of reading the arguments of a command. -/
def Reads (kind : CommandKind) (name : String) (arguments : List Bytes) : Prop :=
  Verdict name (reader kind name arguments) (kind.WellFormed arguments) (kind.HasArity arguments)

theorem reads_of_fixed {kind : CommandKind} {forms : List Form}
    (fixed : kind.fixedForms? = some forms) (arguments : List Bytes) :
    Reads kind name arguments := by
  have asked : kind.forms arguments = forms := by
    cases kind <;> cases fixed <;> rfl
  have counted : kind.HasArity arguments ↔ arguments.length = forms.length := by
    cases kind <;> cases fixed <;> rfl
  exact (reader_takes name fixed arguments).congr (by rw [WellFormed, asked]) counted

/-! ## Kinds with an argument that may be missing -/

theorem reads_ping (arguments : List Bytes) : Reads .ping name arguments := by
  match arguments with
  | [] => exact verdict_read rfl (fit_nil_right _) (by simp [HasArity])
  | [argument] =>
      exact verdict_read rfl (by simp [WellFormed, forms, Form.Fits]) (by simp [HasArity])
  | first :: second :: rest =>
      exact verdict_miscounted rfl (by simp [WellFormed, forms, Form.Fits]) (by simp [HasArity])

theorem reads_auth (arguments : List Bytes) : Reads .auth name arguments := by
  match arguments with
  | [] => exact verdict_miscounted rfl (fit_nil_right _) (by simp [HasArity])
  | [argument] =>
      exact verdict_read rfl (by simp [WellFormed, forms, Form.Fits]) (by simp [HasArity])
  | [first, second] =>
      exact verdict_read rfl (by simp [WellFormed, forms, Form.Fits]) (by simp [HasArity])
  | first :: second :: third :: rest =>
      exact verdict_miscounted rfl (by simp [WellFormed, forms, Form.Fits]) (by simp [HasArity])

/-- What a command reads that removes all keys, if it has an argument. -/
def readsFlushOption (name : String) : ArgumentReader Request := do
  let option ← text name
  if Text.uppercase option ∉ ["ASYNC", "SYNC"] then throw .badOption
  finish name
  return .defer .clear

theorem reads_flushall (arguments : List Bytes) : Reads .flushall name arguments := by
  cases arguments with
  | nil => exact verdict_read rfl (fit_nil_right _) (by simp [HasArity])
  | cons word rest =>
      have reads : reader .flushall name (word :: rest) =
          readsFlushOption name (word :: rest) := rfl
      rw [Reads, reads, readsFlushOption]
      cases spelled : Bytes.text? word with
      | none =>
          have unfit : ¬WellFormed .flushall (word :: rest) := by
            simp [WellFormed, forms, Form.not_fits_word spelled]
          exact verdict_misfit (bind_of_error _ (text_of_none spelled name rest)) unfit
      | some text =>
          have fits : WellFormed .flushall (word :: rest) ↔
              Text.uppercase text ∈ ["ASYNC", "SYNC"] := by
            rw [WellFormed, forms, fit_cons, Form.fits_word_iff spelled,
              and_iff_left (fit_nil_left rest)]
          rw [bind_of_ok _ (text_of_some spelled name rest), fits]
          by_cases listed : Text.uppercase text ∈ ["ASYNC", "SYNC"]
          · have takes : Takes name [] (finish name >>= fun _ => pure (Request.defer .clear)) :=
              takes_finish name _
            rw [if_neg (not_not_intro listed)]
            exact (takes rest).congr (by simpa using listed) (by simp [HasArity])
          · rw [if_pos listed]
            exact verdict_misfit rfl listed

/-! ## Kinds with more arguments at their end -/

theorem reads_client (arguments : List Bytes) : Reads .client name arguments := by
  cases arguments with
  | nil => exact (takesOne_text name).verdict_nil (fit_nil_right _) (by simp [HasArity])
  | cons argument rest =>
      have verdict : Verdict name (reader .client name (argument :: rest))
          (Form.text.Fits argument ∧ True) True :=
        (takesOne_text name).verdict_cons argument fun _ => verdict_read rfl trivial trivial
      exact verdict.congr (by simp [WellFormed, forms]) (by simp [HasArity])

theorem reads_hdel (arguments : List Bytes) : Reads .hdel name arguments := by
  match arguments with
  | [] => exact (takesOne_text name).verdict_nil (fit_nil_right _) (by simp [HasArity])
  | [key] =>
      have verdict : Verdict name (reader .hdel name [key]) (Form.text.Fits key ∧ True) False :=
        (takesOne_text name).verdict_cons key fun _ => verdict_miscounted rfl trivial not_false
      exact verdict.congr (by simp [WellFormed, forms]) (by simp [HasArity])
  | key :: field :: rest =>
      have verdict : Verdict name (reader .hdel name (key :: field :: rest))
          (Form.text.Fits key ∧ True) True :=
        (takesOne_text name).verdict_cons key fun _ => verdict_read rfl trivial trivial
      exact verdict.congr (by simp [WellFormed, forms, Form.Fits]) (by simp [HasArity])

theorem arePairs_iff {arguments : List Bytes} :
    arePairs arguments = true ↔ 2 ≤ arguments.length ∧ arguments.length % 2 = 0 := by
  rw [arePairs, Bool.and_eq_true, beq_iff_eq, Bool.not_eq_true', List.isEmpty_eq_false_iff,
    ← List.length_pos_iff]
  omega

theorem reads_hset (arguments : List Bytes) : Reads .hset name arguments := by
  cases arguments with
  | nil => exact (takesOne_text name).verdict_nil (fit_nil_right _) (by simp [HasArity])
  | cons key rest =>
      have verdict : Verdict name (reader .hset name (key :: rest))
          (Form.text.Fits key ∧ True) (arePairs rest = true) := by
        apply (takesOne_text name).verdict_cons key
        intro read
        rw [bind_of_ok _ (remaining_apply rest)]
        by_cases pairs : arePairs rest = true
        · rw [if_pos pairs]
          exact verdict_read rfl trivial pairs
        · rw [if_neg pairs]
          exact verdict_miscounted rfl trivial pairs
      refine verdict.congr (by simp [WellFormed, forms]) ?_
      rw [arePairs_iff, HasArity, List.length_cons]
      omega

/-! ## A subcommand -/

/-- What a command reads that lists settings, behind its subcommand. -/
def readsSetting (name : String) : ArgumentReader Request := do
  let pattern ← text name
  finish name
  return .readSetting (Text.lowercase pattern)

/-- What a command reads that changes a setting, behind its subcommand. -/
def changesSetting (name : String) : ArgumentReader Request := do
  let parameter ← text name
  let value ← text name
  finish name
  return .changeSetting (Text.lowercase parameter) value

theorem reads_config (arguments : List Bytes) : Reads .config name arguments := by
  cases arguments with
  | nil => exact (takesOne_text name).verdict_nil (fit_nil_right _) (by simp [HasArity])
  | cons word rest =>
      cases spelled : Bytes.text? word with
      | none =>
          have unfit : ¬WellFormed .config (word :: rest) := by
            simp [WellFormed, forms, Form.not_fits_word spelled]
          exact verdict_misfit (bind_of_error _ (text_of_none spelled name rest)) unfit
      | some text =>
          have capitals : capitals? word = some (Text.uppercase text) := capitals?_of_text? spelled
          rw [Reads, reader, bind_of_ok _ (text_of_some spelled name rest)]
          by_cases isGet : Text.uppercase text = "GET"
          · have takes : Takes name [.text] (readsSetting name) :=
              takes_cons (takesOne_text name) fun _ => takes_finish name _
            rw [isGet] at capitals
            rw [if_pos isGet]
            exact (takes rest).congr (by simp [WellFormed, forms, Form.Fits, capitals])
              (by simp [HasArity, capitals])
          · rw [if_neg isGet]
            by_cases isSet : Text.uppercase text = "SET"
            · have takes : Takes name [.text, .text] (changesSetting name) :=
                takes_cons (takesOne_text name) fun _ =>
                  takes_cons (takesOne_text name) fun _ => takes_finish name _
              rw [isSet] at capitals
              rw [if_pos isSet]
              exact (takes rest).congr (by simp [WellFormed, forms, Form.Fits, capitals])
                (by simp [HasArity, capitals])
            · have unfit : ¬WellFormed .config (word :: rest) := by
                simp [WellFormed, forms, Form.Fits, capitals, isGet, isSet]
              rw [if_neg isSet]
              exact verdict_misfit rfl unfit

/-! ## Kinds that read all arguments alike -/

theorem fit_replicate {form : Form} (arguments : List Bytes) :
    Fit (List.replicate arguments.length form) arguments ↔
      ∀ argument ∈ arguments, form.Fits argument := by
  induction arguments with
  | nil => simp
  | cons argument rest inductionHypothesis =>
      rw [List.length_cons, List.replicate_succ, fit_cons, inductionHypothesis,
        List.forall_mem_cons]

theorem textsOf_iff (arguments : List Bytes) :
    (∃ texts, textsOf arguments = .ok texts) ↔
      ∀ argument ∈ arguments, Form.text.Fits argument := by
  induction arguments with
  | nil => simp [textsOf]
  | cons argument rest inductionHypothesis =>
      rw [List.forall_mem_cons, ← inductionHypothesis, textsOf, Form.Fits]
      cases Bytes.text? argument <;> cases textsOf rest <;> simp

theorem shutdownOptions_iff (arguments : List Bytes) :
    (∃ nothing, shutdownOptions arguments = .ok nothing) ↔
      ∀ argument ∈ arguments, (Form.word ["SAVE", "NOSAVE", "NOW", "FORCE"]).Fits argument := by
  induction arguments with
  | nil => simp [shutdownOptions]
  | cons argument rest inductionHypothesis =>
      rw [List.forall_mem_cons, ← inductionHypothesis, shutdownOptions]
      cases spelled : Bytes.text? argument with
      | none => simp [Form.not_fits_word spelled]
      | some text =>
          rw [Form.fits_word_iff spelled]
          dsimp only
          split <;> simp [*]

/-- Keys have to be texts, values are any octets. -/
theorem keyPairs_iff (arguments : List Bytes) (even : arguments.length % 2 = 0) :
    (∃ pairs, keyPairs name arguments = .ok pairs) ↔
      Fit (formsByTurns (arguments.length / 2)) arguments := by
  match arguments with
  | [] => simp [keyPairs]
  | [key] => simp at even
  | key :: value :: rest =>
      rw [List.length_cons, List.length_cons] at even
      have later := keyPairs_iff rest (by omega)
      have pairs : (key :: value :: rest).length / 2 = rest.length / 2 + 1 := by
        rw [List.length_cons, List.length_cons]
        omega
      rw [pairs, formsByTurns, fit_cons, fit_cons, ← later, keyPairs]
      cases spelled : Bytes.text? key <;> cases keyPairs name rest <;> simp [Form.Fits, spelled]

theorem reads_info (arguments : List Bytes) : Reads .info name arguments := by
  have verdict : Verdict name (ArgumentReader.texts arguments) _ _ :=
    verdict_lift (textsOf_iff arguments)
  have whole := verdict.bind_pure fun _ => Request.info
  exact whole.congr (fit_replicate arguments) Iff.rfl

theorem reads_shutdown (arguments : List Bytes) : Reads .shutdown name arguments := by
  have verdict : Verdict name ((liftM (shutdownOptions arguments) : ArgumentReader Unit) []) _ _ :=
    verdict_lift (shutdownOptions_iff arguments)
  have whole := verdict.bind_pure fun _ => Request.shutdown
  exact whole.congr (fit_replicate arguments) Iff.rfl

theorem reads_someTexts {kind : CommandKind} {ask : List String → Request}
    (reads : reader kind name = someTexts name >>= fun keys => pure (ask keys))
    (asked : ∀ arguments, kind.forms arguments = List.replicate arguments.length .text)
    (counted : ∀ arguments, kind.HasArity arguments ↔ 1 ≤ arguments.length)
    (arguments : List Bytes) : Reads kind name arguments := by
  have verdict : Verdict name (someTexts name arguments)
      (Fit (List.replicate arguments.length .text) arguments) (1 ≤ arguments.length) := by
    cases arguments with
    | nil => exact (takesOne_text name).verdict_nil (fit_nil_right _) (by simp)
    | cons argument rest =>
        have later : Verdict name (ArgumentReader.texts rest) _ _ :=
          verdict_lift (textsOf_iff rest)
        have whole := (takesOne_text name).verdict_cons argument fun first =>
          later.bind_pure (first :: ·)
        exact whole.congr (by simp [List.replicate_succ, fit_replicate]) (by simp)
  rw [Reads, reads, WellFormed, asked, counted]
  exact verdict.bind_pure ask

theorem reads_mset (arguments : List Bytes) : Reads .mset name arguments := by
  rw [Reads, reader, bind_of_ok _ (remaining_apply arguments)]
  by_cases pairs : arePairs arguments = true
  · have even := (arePairs_iff.mp pairs).2
    have verdict : Verdict name
        ((liftM (keyPairs name arguments) : ArgumentReader (List (String × Bytes))) []) _ _ :=
      verdict_lift (keyPairs_iff arguments even)
    rw [if_pos pairs]
    refine (verdict.bind_pure _).congr (by rw [WellFormed, forms, if_pos even]) ?_
    exact iff_of_true (arePairs_iff.mp pairs) trivial
  · have fit : WellFormed .mset arguments := by
      rw [WellFormed, forms]
      split
      · rename_i even
        have none : arguments.length = 0 := by
          rw [arePairs_iff] at pairs
          omega
        rw [List.eq_nil_of_length_eq_zero none]
        exact fit_nil_right _
      · exact fit_nil_left arguments
    rw [if_neg pairs]
    exact verdict_miscounted rfl fit fun counted => pairs (arePairs_iff.mpr counted)

/-! ## All kinds -/

/-- All readers come to the verdict, but for the options of a command that stores octets. -/
theorem reads_of_implemented {kind : CommandKind} (implemented : kind.isImplemented = true)
    (known : kind ≠ .unknown) (other : kind ≠ .set) (name : String) (arguments : List Bytes) :
    Reads kind name arguments := by
  cases fixed : kind.fixedForms? with
  | some forms => exact reads_of_fixed fixed arguments
  | none =>
      cases kind with
      | auth => exact reads_auth arguments
      | client => exact reads_client arguments
      | config => exact reads_config arguments
      | del | exist | mget =>
          exact reads_someTexts rfl (fun _ => rfl) (fun _ => Iff.rfl) arguments
      | flushall => exact reads_flushall arguments
      | hdel => exact reads_hdel arguments
      | hset => exact reads_hset arguments
      | info => exact reads_info arguments
      | mset => exact reads_mset arguments
      | ping => exact reads_ping arguments
      | set => exact absurd rfl other
      | shutdown => exact reads_shutdown arguments
      | unknown => exact absurd rfl known
      | subscribe | unsubscribe | exec | multi | watch => cases implemented
      | _ => cases fixed

theorem length_of_limit {timed : List Bytes} {limit : Option Limit}
    (lives : Limit.Spelled timed limit) : timed.length ≤ 2 := by
  cases lives <;> simp

theorem length_of_condition {conditional : List Bytes} {condition : Option SetCondition}
    (depends : SetCondition.Spelled conditional condition) : conditional.length ≤ 1 := by
  cases depends <;> simp

/-- A key, a value, and options of at most three arguments. -/
theorem hasArity_of_grammar {arguments : List Bytes} {storing : Storing}
    (said : Storing.Says arguments storing) : HasArity .set arguments := by
  cases said with
  | intro named optional =>
      rw [HasArity, List.length_cons, List.length_cons]
      cases optional with
      | limitFirst lives depends | conditionFirst lives depends =>
          have timed := length_of_limit lives
          have conditional := length_of_condition depends
          rw [List.length_append]
          omega

/-- Whatever is read is read to its end, and has the right number of arguments. -/
theorem hasArity_of_reader {kind : CommandKind} (implemented : kind.isImplemented = true)
    (known : kind ≠ .unknown) {arguments rest : List Bytes} {request : Request}
    (read : reader kind name arguments = .ok (request, rest)) :
    kind.HasArity arguments ∧ rest = [] := by
  by_cases isSet : kind = .set
  · subst isSet
    obtain ⟨nothing, storing, said, -⟩ := reader_set_eq_ok_iff.mp read
    exact ⟨hasArity_of_grammar said, nothing⟩
  · have reads := reads_of_implemented implemented known isSet name arguments
    exact (reads.of_ok read).2

/-! ## What is read is kept -/

/-- The lists in a request hold all the arguments. -/
def Holds (arguments : List Bytes) : Request → Prop
  | .exist named | .defer (.delete named) | .defer (.readEach named) =>
      arguments = named.map Bytes.ofText
  | .defer (.storeEach pairs) => arguments = keysAndValues pairs
  | .removeFields key fields => arguments = Bytes.ofText key :: fields
  | .setFields key fields => arguments = Bytes.ofText key :: fieldsAndValues fields
  | _ => True

/-- No argument is left without a partner. -/
theorem fieldsAndValues_fieldPairs (arguments : List Bytes) (even : arguments.length % 2 = 0) :
    fieldsAndValues (fieldPairs arguments) = arguments := by
  match arguments with
  | [] => rfl
  | [field] => simp at even
  | field :: value :: rest =>
      rw [List.length_cons, List.length_cons] at even
      have later := fieldsAndValues_fieldPairs rest (by omega)
      change field :: value :: fieldsAndValues (fieldPairs rest) = _
      rw [later]

theorem keysAndValues_of_keyPairs {arguments : List Bytes} {pairs : List (String × Bytes)}
    (accepted : keyPairs name arguments = .ok pairs) : arguments = keysAndValues pairs := by
  fun_induction keyPairs name arguments generalizing pairs with
  | case1 =>
      cases accepted
      rfl
  | case5 word value rest key spelled others later inductionHypothesis =>
      cases accepted
      change _ = Bytes.ofText key :: value :: keysAndValues others
      rw [← inductionHypothesis later, Bytes.ofText_of_text? spelled]
  | case2 | case3 | case4 => cases accepted

/-- No argument of a list is dropped. -/
theorem ReadFrom.holds {kind : CommandKind} {arguments : List Bytes} {request : Request}
    (read : ReadFrom name kind arguments request) : request.Holds arguments := by
  cases read with
  | mget | del | exist | hdel => rfl
  | mset accepted => exact keysAndValues_of_keyPairs accepted
  | hset key paired => rw [Holds, fieldsAndValues_fieldPairs _ (arePairs_iff.mp paired).2]
  | _ => trivial

end Request

/-! ## Names in small letters -/

namespace CommandKind

/-- A character with a capital of ASCII is one of ASCII, and both have one small letter. -/
theorem small_of_capital {char : Char}
    (capital : 65 ≤ char.toUpper.toNat ∧ char.toUpper.toNat ≤ 90) :
    char.toNat < 128 ∧ char.toUpper.toLower = char.toLower := by
  have ascii : char.toNat < 128 := by
    unfold Char.toUpper at capital
    split at capital
    · rename_i small
      have upTo : char.toNat ≤ 122 := small.2
      omega
    · omega
  have table : ∀ code < 128, (Char.ofNat code).toUpper.toLower = (Char.ofNat code).toLower := by
    decide
  have found := table char.toNat ascii
  rw [Char.ofNat_toNat] at found
  exact ⟨ascii, found⟩

theorem lowercaseAfter_of_ascii (before : List Char) {rest : List Char}
    (ascii : ∀ char ∈ rest, char.toNat < 128) :
    Text.lowercaseAfter before rest = rest.map Char.toLower := by
  induction rest generalizing before with
  | nil => rfl
  | cons char rest inductionHypothesis =>
      obtain ⟨first, others⟩ := List.forall_mem_cons.mp ascii
      have other : char ≠ 'Σ' := by
        rintro rfl
        exact absurd first (by decide)
      rw [Text.lowercaseAfter, if_neg other, Text.lowercaseChar, if_pos first,
        inductionHypothesis _ others]
      rfl

theorem capital_of_mem_name {kind : CommandKind} {char : Char} (member : char ∈ kind.name.toList) :
    65 ≤ char.toNat ∧ char.toNat ≤ 90 := by
  have capitals : (kind.name.toList.all fun char => 65 ≤ char.toNat ∧ char.toNat ≤ 90) = true := by
    cases kind <;> decide
  exact of_decide_eq_true (List.all_eq_true.mp capitals char member)

/-- However a known name is written, it has the same small letters. -/
theorem lowercase_of_known {name : String} (known : ofName name ≠ .unknown) :
    Text.lowercase name = (ofName name).smallName := by
  have capital : ∀ char ∈ name.toList, 65 ≤ char.toUpper.toNat ∧ char.toUpper.toNat ≤ 90 := by
    intro char member
    have listed : char.toUpper ∈ (ofName name).name.toList := by
      rw [name_of_known known, String.toList_ofList]
      exact List.mem_map_of_mem member
    exact capital_of_mem_name listed
  have small := lowercaseAfter_of_ascii [] fun char member =>
    (small_of_capital (capital char member)).1
  rw [Text.lowercase, small, smallName, name_of_known known, String.toList_ofList, List.map_map]
  exact congrArg String.ofList (List.map_congr_left fun char member =>
    (small_of_capital (capital char member)).2.symm)

end CommandKind

/-! ## All commands -/

/-- A command is read only with a right number of arguments, and then none is left over or dropped
from a list. Arguments that fit their positions are read exactly if their number is right; if it is
not, the command is refused for it by name, and nothing is carried out. -/
theorem Command.takes_right_number {name : String} (known : CommandKind.ofName name ≠ .unknown)
    (implemented : (CommandKind.ofName name).isImplemented = true) (arguments : List Bytes) :
    let kind := CommandKind.ofName name
    (∀ request rest, Request.reader kind name arguments = .ok (request, rest) →
      kind.HasArity arguments ∧ rest = [] ∧ request.Holds arguments) ∧
    (kind ≠ .set →
      ((∃ request, Request.ofCommand (Command.new name arguments) = .ok request) ↔
        kind.WellFormed arguments ∧ kind.HasArity arguments) ∧
      (kind.WellFormed arguments → ¬kind.HasArity arguments → ∀ scene,
        (Command.new name arguments).execute scene =
          (.failed (.parameterMismatch
            ("wrong number of arguments for '" ++ kind.smallName ++ "' command")), scene))) := by
  intro kind
  refine ⟨fun request rest read => ?_, fun other => ?_⟩
  · obtain ⟨counted, nothing⟩ := Request.hasArity_of_reader implemented known read
    exact ⟨counted, nothing, (Request.reader_yields kind name _ _ _ read).holds⟩
  · have reads := Request.reads_of_implemented implemented known other name arguments
    refine ⟨⟨?_, ?_⟩, fun fit wrong scene => ?_⟩
    · rintro ⟨request, accepted⟩
      obtain ⟨rest, read⟩ := ArgumentReader.run_eq_ok accepted
      obtain ⟨fit, counted, -⟩ := reads.of_ok read
      exact ⟨fit, counted⟩
    · rintro ⟨fit, counted⟩
      obtain ⟨request, read⟩ := reads.read fit counted
      exact ⟨request, ArgumentReader.run_of_all_read read⟩
    · have refused : Request.ofCommand (Command.new name arguments) =
          .error (.wrongNumberOfArguments name) :=
        congrArg (Except.map Prod.fst) (reads.miscounted fit wrong)
      rw [Command.execute, refused, Failure.wrongNumberOfArguments,
        CommandKind.lowercase_of_known known]

/-- Of an odd number of arguments nothing is read, so a key that is no text is not noticed. -/
theorem Command.odd_pairs_refused_unread :
    let arguments : List Bytes := [[255], Bytes.ofText "v", Bytes.ofText "k"]
    CommandKind.ofName "mSet" ≠ .unknown ∧ CommandKind.mset.isImplemented = true ∧
      CommandKind.mset.WellFormed arguments ∧ ¬CommandKind.mset.HasArity arguments ∧
      ∀ scene, (Command.new "mSet" arguments).execute scene =
        (.failed (.parameterMismatch "wrong number of arguments for 'mset' command"), scene) := by
  intro arguments
  have known : CommandKind.ofName "mSet" ≠ .unknown := by decide
  have fit : CommandKind.mset.WellFormed arguments := by
    simp [CommandKind.WellFormed, CommandKind.forms, arguments]
  have wrong : ¬CommandKind.mset.HasArity arguments := by
    simp [CommandKind.HasArity, arguments]
  obtain ⟨-, others⟩ := Command.takes_right_number known rfl arguments
  exact ⟨known, rfl, fit, wrong, (others (by decide)).2 fit wrong⟩

end RespServer
