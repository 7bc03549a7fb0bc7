import RootObject.Config
import RootObject.Json.Record

/-!
Reading configurations from JSON documents. Fields that are missing keep their defaults; a document that
is refused is refused with the line and column of the refusal.
-/

namespace RootObject.Config

open Json

/-- Why and where a document is refused. Columns count bytes. -/
structure Refusal where
  cause : Json.Cause
  line : Nat
  column : Nat
  deriving DecidableEq, Repr

def Refusal.message (refusal : Refusal) : String :=
  refusal.cause.message ++ " at line " ++ Decimal.ofNat refusal.line ++ " column " ++
    Decimal.ofNat refusal.column

/-- The refusal at the place that so many bytes lead up to. -/
def Refusal.behind (cause : Json.Cause) (read : List UInt8) : Refusal where
  cause := cause
  line := read.count 0x0A + 1
  column := (read.reverse.takeWhile (· ≠ 0x0A)).length

def readInput (input : Input) : Reader Input :=
  readRecord "InputConfig" [
    ⟨"initial_capacity", fun input => do return { input with initialCapacity := ← readSize }⟩,
    ⟨"line_terminator", fun input => do
      let terminators := LineTerminator.all.map fun terminator => (terminator.name, terminator)
      return { input with lineTerminator := ← readVariant terminators }⟩] input

def readOutput (output : Output) : Reader Output :=
  readRecord "OutputConfig" [
    ⟨"flush_before_input", fun output => do return { output with flushBeforeInput := ← readBool }⟩]
    output

def readLevel : Reader Log.Level :=
  readVariant (Log.Level.all.map fun level => (level.name, level))

def readFormat : Reader Log.Format :=
  readVariant (Log.Format.all.map fun format => (format.name, format))

def readLog (log : Log.Settings) : Reader Log.Settings :=
  readRecord "LogConfig" [
    ⟨"level", fun log => do return { log with level := ← readLevel }⟩,
    ⟨"format", fun log => do return { log with format := ← readFormat }⟩,
    ⟨"object", fun log => do return { log with object := ← readOptional readLevel }⟩,
    ⟨"io", fun log => do return { log with io := ← readOptional readLevel }⟩,
    ⟨"dispatch", fun log => do return { log with dispatch := ← readOptional readLevel }⟩] log

/-- A configuration, every part of which starts from its defaults. -/
def readConfig : Reader Config :=
  readRecord "RuntimeConfig" [
    ⟨"input", fun config => do return { config with input := ← readInput {} }⟩,
    ⟨"output", fun config => do return { config with output := ← readOutput {} }⟩,
    ⟨"log", fun config => do return { config with log := ← readLog {} }⟩] {}

/-- The value of a document that holds nothing behind it. -/
def document {α : Type} (read : Reader α) : Reader α := do
  let value ← read
  match ← Reader.peekToken with
  | none => return value
  | some _ => Reader.refuseNext .textTrailing

/-- The value that a reader takes the bytes of a document for. -/
def ofDocument {α : Type} (read : Reader α) (bytes : List UInt8) : Except Refusal α :=
  match document read bytes with
  | .ok (value, _) => .ok value
  | .error refusal => .error (.behind refusal.cause (bytes.take (bytes.length - refusal.left)))

/-- The configuration that a document holds. -/
def ofJson (text : String) : Except Refusal Config :=
  ofDocument readConfig (Utf8.encode text)

end RootObject.Config
