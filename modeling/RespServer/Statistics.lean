import RespServer.Command.Kind

/-!
Contract: the counters of the server.

Owns:
- counting clients, and the commands of each kind that run or have run;
- the report that the server gives of them.

Does not own: durations. The report shows an asterisk where a measured time stands, because no
time is measured here.
-/

namespace RespServer

/-- The counters of one kind of command. Counters are words: they wrap around. -/
structure Tally where
  calls : UInt64
  inProgress : UInt64
deriving DecidableEq, Repr, Inhabited

structure Statistics where
  clients : UInt64
  connections : UInt64
  commands : UInt64
  tallies : Vector Tally 41
deriving DecidableEq

namespace Statistics

def zero : Statistics :=
  ⟨0, 0, 0, Vector.replicate 41 ⟨0, 0⟩⟩

theorem index_lt (kind : CommandKind) : kind.index < 41 := by
  cases kind <;> decide

def tally (statistics : Statistics) (kind : CommandKind) : Tally :=
  have := index_lt kind
  statistics.tallies[kind.index]

def modify (statistics : Statistics) (kind : CommandKind) (change : Tally → Tally) : Statistics :=
  have := index_lt kind
  { statistics with
    tallies := statistics.tallies.set kind.index (change (statistics.tally kind)) }

/-- Counts a client that connects. -/
def addClient (statistics : Statistics) : Statistics :=
  { statistics with
    clients := statistics.clients + 1
    connections := statistics.connections + 1 }

/-- Counts a client that leaves. -/
def removeClient (statistics : Statistics) : Statistics :=
  { statistics with clients := statistics.clients - 1 }

def startCommand (statistics : Statistics) (kind : CommandKind) : Statistics :=
  statistics.modify kind fun tally => { tally with inProgress := tally.inProgress + 1 }

def endCommand (statistics : Statistics) (kind : CommandKind) : Statistics :=
  let counted := statistics.modify kind fun tally =>
    ⟨tally.calls + 1, tally.inProgress - 1⟩
  { counted with commands := counted.commands + 1 }

/-- The line of the report on a kind of command, if any has run. -/
def commandLine (statistics : Statistics) (kind : CommandKind) : String :=
  let calls := (statistics.tally kind).calls
  if calls = 0 then ""
  else "cmdstat_" ++ kind.smallName ++ ":calls=" ++ toString calls.toNat
    ++ ",usec=*,usec_per_call=*\r\n"

/-- The report: sections with a heading, one counter a line. -/
def report (statistics : Statistics) : String :=
  "# Server\r\nuptime_in_seconds:*\r\n\r\n# Clients\r\nconnected_clients:"
    ++ toString statistics.clients.toNat
    ++ "\r\n\r\n# Stats\r\ntotal_connections_received:"
    ++ toString statistics.connections.toNat
    ++ "\r\ntotal_commands_processed:"
    ++ toString statistics.commands.toNat
    ++ "\r\n\r\n# Commandstats\r\n"
    ++ String.join (CommandKind.all.map statistics.commandLine)

/-- The report where nothing is counted. -/
def noReport : String :=
  ""

/-- Whoever counts gives another report, even before anything has been counted. -/
theorem report_ne_noReport (statistics : Statistics) : statistics.report ≠ noReport := by
  intro same
  have lengths := congrArg String.length same
  unfold report noReport at lengths
  simp only [String.length_append] at lengths
  have heading : "\r\n\r\n# Commandstats\r\n".length = 20 := by decide
  have nothing : "".length = 0 := rfl
  omega

/-! ### What a change of one kind leaves -/

@[simp] theorem tally_modify_self (statistics : Statistics) (kind : CommandKind)
    (change : Tally → Tally) :
    (statistics.modify kind change).tally kind = change (statistics.tally kind) := by
  simp [tally, modify]

theorem tally_modify_of_ne (statistics : Statistics) {kind other : CommandKind}
    (different : kind ≠ other) (change : Tally → Tally) :
    (statistics.modify kind change).tally other = statistics.tally other := by
  have differentIndex : kind.index ≠ other.index :=
    fun sameIndex => different (CommandKind.index_injective sameIndex)
  simp only [tally, modify]
  rw [Vector.getElem_set_ne _ _ differentIndex]

end Statistics

end RespServer
