import RootObject.Log.Settings

/-!
The configuration of a program: how it reads, when it flushes, what it logs. Every part has defaults.
-/

namespace RootObject

/-- What reading a line does with the line end it stops at. -/
inductive LineTerminator where
  /-- It is taken, so that the next read starts on the following line. -/
  | consume
  /-- It stays for the next read. -/
  | keep
  deriving DecidableEq, Repr

namespace LineTerminator

def all : List LineTerminator :=
  [.consume, .keep]

def name : LineTerminator → String
  | .consume => "consume"
  | .keep => "keep"

def label : LineTerminator → String
  | .consume => "Consume"
  | .keep => "Keep"

def ofName? (name : String) : Option LineTerminator :=
  all.find? fun terminator => terminator.name = name

end LineTerminator

namespace Config

structure Input where
  /-- How many bytes an input buffer holds before it grows. -/
  initialCapacity : Nat := 1024
  lineTerminator : LineTerminator := .consume
  deriving DecidableEq, Repr

structure Output where
  /-- Whether output is flushed before input is waited for. -/
  flushBeforeInput : Bool := true
  deriving DecidableEq, Repr

end Config

structure Config where
  input : Config.Input := {}
  output : Config.Output := {}
  log : Log.Settings := {}
  deriving DecidableEq, Repr

namespace Config

/-- The level that so many requests for more output ask for. -/
def verbosityLevel? : Nat → Option Log.Level
  | 0 => none
  | 1 => some .info
  | 2 => some .debug
  | _ => some .trace

/-- The configuration with what a command line adds: more output never makes the level lower, and a
format replaces the configured one. -/
def overriddenBy (config : Config) (verbosity : Nat) (format : Option Log.Format) : Config :=
  let level := match verbosityLevel? verbosity with
    | some level => config.log.level.max level
    | none => config.log.level
  { config with log := { config.log with level, format := format.getD config.log.format } }

end Config
end RootObject
