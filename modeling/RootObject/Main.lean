import RootObject.CommandLine.Program

/-!
The program as the system runs it. Log lines tell the time as the nanoseconds of the system's clock.
-/

namespace RootObject.Main

open CommandLine

/-- What is left of a stream, behind what was read of it. -/
partial def readToEnd (stream : IO.FS.Stream) (read : ByteArray) : IO ByteArray := do
  let chunk ← stream.read 65536
  if chunk.isEmpty then
    return read
  readToEnd stream (read ++ chunk)

def fileError : IO.Error → FileError
  | .noFileOrDirectory .. => .missing
  | .permissionDenied .. => .forbidden
  | .inappropriateType _ 21 _ => .isDirectory
  | .inappropriateType _ 20 _ => .notDirectory
  | .invalidArgument _ 36 _ => .nameTooLong
  | error => .other error.toString

def readFile (path : String) : IO (Except FileError (List UInt8)) := do
  try
    return .ok (← IO.FS.readBinFile path).toList
  catch error =>
    return .error (fileError error)

end RootObject.Main

def main (arguments : List String) : IO UInt32 := do
  let invocation? := (RootObject.CommandLine.read arguments).toOption
  let content ← match invocation?.bind fun invocation => invocation.config with
    | some path => RootObject.Main.readFile path
    | none => pure (.error .missing)
  let input ← match invocation?.map fun invocation => invocation.command.reads with
    | some true => RootObject.Main.readToEnd (← IO.getStdin) .empty
    | _ => pure .empty
  let time ← IO.monoNanosNow
  let exit := RootObject.CommandLine.run arguments (fun _ => content) input.toList (toString time)
  let output ← IO.getStdout
  output.write (ByteArray.mk exit.stdout.toArray)
  output.flush
  IO.eprint exit.stderr
  return exit.code.toUInt32
