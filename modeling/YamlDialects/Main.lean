import YamlDialects.Json.Reader
import YamlDialects.Server.Wire
import YamlDialects.Server.Session

set_option autoImplicit false

namespace YamlDialects.Main

partial def readHeader (input : IO.FS.Stream) (length : Nat) : IO (Option Nat) := do
  let line ← input.getLine
  if line.isEmpty then return none
  if line.trimAscii.isEmpty then return some length
  readHeader input ((Frame.contentLength? line).getD length)

partial def readBody (input : IO.FS.Stream) (length : Nat) (bytes : ByteArray) : IO ByteArray := do
  if length ≤ bytes.size then return bytes
  let part ← input.read (USize.ofNat (length - bytes.size))
  if part.isEmpty then return bytes
  readBody input length (bytes ++ part)

def readFiles (names : List String) : IO Files := do
  let mut found : List (String × String) := []
  for name in names do
    try
      found := (name, ← IO.FS.readFile name) :: found
    catch _ => pure ()
  let files := found
  return fun name => (files.find? (·.1 == name)).map (·.2)

def send (output : IO.FS.Stream) (value : Json) : IO Unit := do
  output.putStr (Frame.write value)
  output.flush

def withVersion : Json → Json
  | .object members => .object (("jsonrpc", .string "2.0") :: members)
  | value => value

partial def serve (input output : IO.FS.Stream) (session : Session) : IO Unit := do
  let some length ← readHeader input 0 | return
  let body ← readBody input length ByteArray.empty
  let some message := ((String.fromUTF8? body).bind Json.read?).bind Message.ofJson? | serve input output session
  let files ← readFiles (session.filesNeeded message)
  let (outcome, session) := session.receive { files, now := ← IO.monoMsNow } message
  for publication in outcome.publications do
    send output (withVersion (Wire.publication publication))
  if let some reply := outcome.reply? message then
    send output reply
  if message.isLast then return
  serve input output session

end YamlDialects.Main

def main : IO Unit := do
  YamlDialects.Main.serve (← IO.getStdin) (← IO.getStdout) (.initial fun _ => none)
