import LanguageServer.Connection
import LanguageServer.Json.Printer
import LanguageServer.Protocol.Frame

/-! The server on the standard streams. It runs no programs, so that it never finds a compiler. -/

namespace LanguageServer.Main

/-- Reads the header of a message: the length of the message, unless the stream ends. -/
partial def readHeader (input : IO.FS.Stream) (length : Option Nat) : IO (Option Nat) := do
  let line ← input.getLine
  if line.isEmpty then return none
  else if Protocol.endsHeader line then return some (length.getD 0)
  else readHeader input ((Protocol.contentLength? line).or length)

/-- Reads so many bytes, or fewer if the stream ends. -/
partial def readBytes (input : IO.FS.Stream) (length : Nat) (found : ByteArray) : IO ByteArray := do
  if length ≤ found.size then return found
  let more ← input.read (length - found.size).toUSize
  if more.isEmpty then return found
  readBytes input length (found ++ more)

def readMessage (input : IO.FS.Stream) : IO (Option String) := do
  match ← readHeader input none with
  | none => return none
  | some length =>
    let bytes ← readBytes input length .empty
    return some (Text.ofUtf8 bytes.toList)

def writeAll (output : IO.FS.Stream) (messages : List Server.Outgoing) : IO Unit := do
  for message in messages do
    output.putStr (Protocol.frame message.toJson.render)
  output.flush

/-- Talks to the editor until it ends the conversation. What was due is done when the next message
comes. -/
partial def converse (input output : IO.FS.Stream) (start : Nat) (connection : Connection) :
    IO Unit := do
  match ← readMessage input with
  | none => writeAll output connection.close
  | some text =>
    let elapsed := (← IO.monoMsNow) - start
    let connection : Connection :=
      Simulation.advance Connection.machine connection (elapsed - connection.now)
    let (connection, messages) := (connection.send text).takeAll
    writeAll output messages
    converse input output start connection

/-- Runs the server as its arguments say, and gives the exit code. -/
def run (arguments : List String) : IO UInt32 := do
  match CommandLine.start arguments with
  | .error farewell =>
    IO.print farewell.stdout
    IO.eprint farewell.stderr
    return farewell.exitCode.toUInt32
  | .ok options =>
    let place : Connection.Place := { launcher := {}, current := "/" }
    converse (← IO.getStdin) (← IO.getStdout) (← IO.monoMsNow) (.start place options)
    return 0

end LanguageServer.Main

def main (arguments : List String) : IO UInt32 :=
  LanguageServer.Main.run arguments
