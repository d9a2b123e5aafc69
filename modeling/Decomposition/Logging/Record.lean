import Decomposition.Files.Tree
import Decomposition.Logging.Setup

namespace Decomposition

/-- The logger above all loggers of the library. -/
def rootLogger : String := "opendw"

/-- Names outside the library's tree are put below its root. -/
def loggerName (name : String) : String :=
  if name = rootLogger || (rootLogger ++ ".").isPrefixOf name then name
  else rootLogger ++ "." ++ name

structure LogRecord where
  level : Int
  logger : String
  message : String

namespace LogRecord

/-- The level is filled up to this width. -/
def levelWidth : Nat := 8

def padRight (width : Nat) (text : String) : String :=
  text ++ String.ofList (List.replicate (width - text.length) ' ')

def line (r : LogRecord) : String :=
  padRight levelWidth (LogLevel.name r.level) ++ " | " ++ r.logger ++ " | " ++ r.message ++ "\n"

def timedLine (r : LogRecord) (time : String) : String := time ++ " | " ++ r.line

end LogRecord

/-- The logger together with the log files. Files are appended to, and exist from the moment they
are opened. -/
structure LogState where
  setup : LogSetup
  files : FileTree

namespace LogState

def initial : LogState := ⟨.initial, .empty⟩

/-- Opening a file creates it. -/
def openSink (files : FileTree) : Sink → Outcome FileTree Unit
  | .console => .ok files ()
  | .file name => files.create name

/-- A handler is installed once its sink is open. -/
def install (s : LogState) (sink : Sink) : Outcome LogState Unit :=
  let opened := openSink s.files sink
  let ready : LogState := { s with files := opened.state }
  (⟨ready, opened.result⟩ : Outcome LogState Unit).andThen fun ready _ =>
    .ok { ready with setup := ready.setup.install sink } ()

/-- The level is settled first, so that a setup with an unknown level changes nothing. A file that
cannot be opened ends the setup, and what has been done before stays. -/
def configure (s : LogState) (r : LogRequest) (configured : Datum) : Outcome LogState Unit :=
  match LogSetup.requestedLevel r configured with
  | .error fault => .refuse s fault
  | .ok level =>
      Outcome.forEach install { s with setup := s.setup.restart level } (LogSetup.requested r)

def append (time : String) (r : LogRecord) (files : FileTree) : Sink → FileTree
  | .console => files
  | .file name => files.append (.ofText name) (r.timedLine time)

/-- The record goes to every sink, and the text for the console is returned. -/
def write (s : LogState) (time : String) (r : LogRecord) : LogState × String :=
  if LogLevel.admits s.setup.level r.level then
    let console := if s.setup.sinks.contains .console then r.line else ""
    ({ s with files := s.setup.sinks.foldl (append time r) s.files }, console)
  else (s, "")

end LogState

end Decomposition
