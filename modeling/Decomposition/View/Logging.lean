import Decomposition.Journal
import Decomposition.Text.Characters
import Decomposition.View.Basic

namespace Decomposition

namespace LogLine

/-- The form of a time stamp and of the bar after it. A zero stands for any decimal digit. -/
def stampForm : List Char := "0000-00-00 00:00:00 | ".toList

def fits (form c : Char) : Bool :=
  if form = '0' then (Text.decimalValue? c).isSome else c = form

/-- What follows after a text of the given form. -/
def afterForm? : List Char → List Char → Option (List Char)
  | [], rest => some rest
  | f :: form, c :: rest => if fits f c then afterForm? form rest else none
  | _ :: _, [] => none

/-- What is shown for a time stamp and the bar after it. -/
def stampMark : List Char := "<time> | ".toList

/-- Only the first time stamp of a line counts. -/
def masked (line : List Char) : List Char :=
  match afterForm? stampForm line with
  | some rest => stampMark ++ rest
  | none => line

/-- Every kind of line end is read as a line feed. One at the end opens an empty line. -/
def ofFile (text : String) : List String :=
  ((String.ofList (Text.normalizeNewlines text.toList)).splitOn "\n").map fun line =>
    String.ofList (masked line.toList)

end LogLine

/-- The lines of a file, if there is one. No file has an empty name, and none is found under a name
that is too long. -/
def LogState.read (s : LogState) (name : String) : Except Fault (Option (List String)) :=
  if name.isEmpty || longestPath < name.utf8ByteSize then .ok none
  else (s.files.find (.ofFullSpelling name)).map fun found => found.map LogLine.ofFile

namespace View

/-- Only the handlers that a setup has installed are shown. -/
def setup (s : LogSetup) : Datum :=
  .table
    [("name", .text rootLogger), ("level", .int s.level),
      ("handlers", list (fun sink => .text sink.name) s.sinks)]

def event (e : Event) : Datum :=
  .list [.text (LogLevel.name e.level), .text e.logger, .text e.message]

end View

end Decomposition
