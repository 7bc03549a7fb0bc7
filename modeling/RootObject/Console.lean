import RootObject.Config
import RootObject.Input.Stream
import RootObject.Output.Sink

/-!
Consoles: a byte stream to read from, a sink to write to, and two settings. With flushing before input
a read first flushes the sink, and does not touch the stream if that fails. Reading a line takes the
line end that follows it, or leaves it, as the settings say; reading a token drops the blanks before
it and leaves what follows.
-/

namespace RootObject

namespace Console

structure Settings where
  lineTerminator : LineTerminator := .consume
  flushBeforeInput : Bool := true
  deriving DecidableEq, Repr

/-- The part of a configuration that a console takes over when it is made. -/
def Settings.ofConfig (config : Config) : Settings where
  lineTerminator := config.input.lineTerminator
  flushBeforeInput := config.output.flushBeforeInput

/-- A console with these settings as a value, which tells whether others read from its stream. -/
def Settings.text (settings : Settings) (shared : Bool) : String :=
  recordText "Console" [
    ("input", quoted (if shared then "shared" else "owned")),
    ("line_terminator", settings.lineTerminator.label),
    ("flush_before_input", if settings.flushBeforeInput then "true" else "false")]

end Console

structure Console where
  settings : Console.Settings
  stream : Stream
  sink : Sink
  deriving DecidableEq, Repr

namespace Console

variable {ε α : Type}

/-- An action of the stream that the console reads from. -/
def onStream (action : Action Stream ε α) : Action Console ε α :=
  action.within stream fun stream console => { console with stream }

/-- A call of the sink that the console writes to. -/
def onSink (call : Sink → Except ε α × Sink) : Action Console ε α := fun console =>
  let (result, sink) := call console.sink
  let ending := match result with
    | .ok value => .returned value
    | .error error => .failed error
  ⟨ending, { console with sink }, []⟩

/-- Writes a text as it is. -/
def write (text : String) : Action Console IoError Unit :=
  onSink (Sink.writeAll (Utf8.encode text))

def flush : Action Console IoError Unit :=
  onSink Sink.flush

/-- Makes output visible before input is waited for, where the settings ask for it. -/
def prepareInput : Action Console ReadError Unit := do
  let console ← Action.get
  if console.settings.flushBeforeInput then
    flush.mapError .io

/-- What reading a line does with its stream. -/
def lineOf (terminator : LineTerminator) : Action Stream ReadError String := do
  let line ← Stream.readUntil isLineEnd
  if terminator = .consume then
    let next ← Stream.peek.mapError ReadError.io
    if next = some 0x0A then
      let _ ← Stream.nextByte.mapError ReadError.io
  return line

/-- What reading a token does with its stream. -/
def tokenOf : Action Stream ReadError String := do
  let _ ← (Stream.skipWhile isSpace).mapError ReadError.io
  Stream.readUntil isSpace

/-- The text up to the next line end or the end of the stream. -/
def readLine : Action Console ReadError String := do
  prepareInput
  let console ← Action.get
  let line ← onStream (lineOf console.settings.lineTerminator)
  Action.emit (.lineRead line.utf8ByteSize)
  return line

/-- The next run of bytes that are no blanks; empty at the end of the stream. -/
def readToken : Action Console ReadError String := do
  prepareInput
  let token ← onStream tokenOf
  Action.emit (.tokenRead token)
  return token

end Console
end RootObject
