import RespServer.Server.Handler

/-!
Contract: the command line of the server.

Owns:
- the options;
- one client on standard input and output, whose stream is read chunk by chunk.

Does not own: sockets; a listener hands each client's stream to a process of its own. Nor does it
write a log, on which nothing that a client sees depends.
-/

namespace RespServer.CommandLine

structure Options where
  password : Option Bytes
  allowUnsupported : Bool
  /-- How much is buffered for one request. -/
  limit : Nat

/-- No secret, no unsupported commands, and the usual limit. -/
def Options.standard : Options :=
  ⟨none, false, Frame.defaultLimit⟩

/-- Reads the options; the failure is a message for the user. -/
def Options.read (options : Options) : List String → Except String Options
  | [] => .ok options
  | "--requirepass" :: secret :: rest =>
      read { options with password := some (Bytes.ofText secret) } rest
  | "--enable-unsupported-commands" :: rest => read { options with allowUnsupported := true } rest
  | "--max-frame-size" :: size :: rest =>
      match IntegerType.uint64.read? (Bytes.ofText size) with
      | some limit => read { options with limit := limit.toNat } rest
      | none => .error ("invalid value '" ++ size ++ "' for '--max-frame-size'")
  | option :: _ => .error ("unexpected argument '" ++ option ++ "' found")

/-- A chunk has arrived after some time: keys expire, frames arrive, and all work is done. -/
def advance (handler : Handler) (world : World) (elapsed : Duration) (chunk : Bytes) :
    Handler × World :=
  let (world, _) := world.step (.advance elapsed)
  (handler.append chunk).settle world

/-- The replies that were written after the first so many. -/
def repliesAfter (world : World) (count : Nat) : List Frame :=
  world.connections.flatMap fun connection => connection.written.drop count

/-- Writes the replies that are new and returns how many there are in all. -/
def writeReplies (output : IO.FS.Stream) (world : World) (count : Nat) : IO Nat := do
  let replies := repliesAfter world count
  output.write ⟨(Frame.encodeEach replies).toArray⟩
  output.flush
  return count + replies.length

/-- Reads chunks until the stream or the connection ends. -/
partial def serve (input output : IO.FS.Stream) (handler : Handler) (world : World)
    (count : Nat) (lastSeen : Nat) : IO Unit := do
  let chunk ← input.read 65536
  let time ← IO.monoMsNow
  let received := if chunk.isEmpty then handler.finish else handler
  let (handler, world) := advance received world (time - lastSeen) chunk.data.toList
  let count ← writeReplies output world count
  if handler.finished then return
  serve input output handler world count time

end RespServer.CommandLine

open RespServer in
def main (arguments : List String) : IO UInt32 := do
  match CommandLine.Options.standard.read arguments with
  | .error message =>
      (← IO.getStderr).putStrLn ("error: " ++ message)
      return 2
  | .ok options =>
      let world := (World.start options.password options.allowUnsupported).connect
      CommandLine.serve (← IO.getStdin) (← IO.getStdout) (Handler.new 0 options.limit) world 0
        (← IO.monoMsNow)
      return 0
