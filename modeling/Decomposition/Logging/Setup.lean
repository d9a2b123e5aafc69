import Decomposition.Logging.Level

namespace Decomposition

/-- Where an installed handler writes. -/
inductive Sink where
  | console
  | file (name : String)
  deriving DecidableEq

def Sink.name : Sink → String
  | .console => "console"
  | .file _ => "file"

inductive Handler where
  | installed (sink : Sink)
  /-- A handler that somebody else attached to the logger. -/
  | foreign (label : Nat)
  deriving DecidableEq

namespace Handler

def sink? : Handler → Option Sink
  | .installed sink => some sink
  | .foreign _ => none

end Handler

/-- The level and the handlers of the library's logger. -/
structure LogSetup where
  level : Int
  handlers : List Handler
  deriving DecidableEq

/-- What a setup asks for. Without a level, the configured one is taken. -/
structure LogRequest where
  level : Datum
  file : Option String
  console : Bool

namespace LogSetup

/-- One silent handler keeps the library quiet until a setup. -/
def initial : LogSetup := ⟨LogLevel.notset, [.foreign 0]⟩

/-- The sinks of the installed handlers, in the order of installation. -/
def sinks (s : LogSetup) : List Sink := s.handlers.filterMap Handler.sink?

/-- The console comes first. An empty file name asks for no file. -/
def requested (r : LogRequest) : List Sink :=
  (if r.console then [.console] else [])
    ++ match r.file with
      | none => []
      | some name => if name.isEmpty then [] else [.file name]

def requestedLevel (r : LogRequest) (configured : Datum) : Except Fault Int :=
  LogLevel.resolve
    (match r.level with
      | .null => configured
      | level => level)

/-- The handlers of an earlier setup are taken away, and all others are left alone. -/
def restart (s : LogSetup) (level : Int) : LogSetup :=
  ⟨level, s.handlers.filter fun h => h.sink?.isNone⟩

def install (s : LogSetup) (sink : Sink) : LogSetup :=
  { s with handlers := s.handlers ++ [.installed sink] }

end LogSetup

end Decomposition
