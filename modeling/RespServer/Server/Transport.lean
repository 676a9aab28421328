import RespServer.Server.FrameReader

/-!
Contract: a connection's two halves as streams of octets.

Owns:
- the receiving half, and the sending half, which is handed out once;
- writing frames in order.

Does not own: sockets.
-/

namespace RespServer

structure Transport where
  receiving : FrameReader
  /-- Whether the sending half has been handed out. -/
  writing : Bool
  sent : Bytes
deriving DecidableEq

namespace Transport

/-- A fresh connection with a limit on what is buffered. -/
def new (limit : Nat) : Transport :=
  ⟨FrameReader.new limit, false, []⟩

/-- Hands out the sending half; none if it has been handed out. -/
def startWriter? (transport : Transport) : Option Transport :=
  if transport.writing then none else some { transport with writing := true }

/-- Sends the wire forms of frames, in order. -/
def writeFrames (transport : Transport) (frames : List Frame) : Transport :=
  { transport with sent := transport.sent ++ Frame.encodeEach frames }

/-- The sending half is handed out at most once. -/
theorem startWriter?_twice {transport started : Transport}
    (first : transport.startWriter? = some started) : started.startWriter? = none := by
  unfold startWriter? at *
  split at first
  · cases first
  · cases first
    rfl

end Transport

end RespServer
