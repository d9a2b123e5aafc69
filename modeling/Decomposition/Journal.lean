import Decomposition.ColumnReport
import Decomposition.Logging.Record

namespace Decomposition

/-- An event is written once what it tells of has happened. A refused operation writes none, unless
it is the report of a finished solver that could not be read. -/
inductive Event where
  | reset (form : Int) (count : Nat)
  | finished (form : Int) (status : SolutionStatus)
  | noResult (form : Int)
  | intrinsicCost (form : Int) (cost : Float)
  | cloned (count : Nat) (source dest : Int) (duty : Duty)
  | columnReported (report : ColumnReport)

namespace Event

/-- Only a reported column is worth a warning. -/
def level : Event → Int
  | .columnReported _ => LogLevel.warning
  | _ => LogLevel.debug

def logger : Event → String
  | .columnReported _ => loggerName "colgen.diagnostics"
  | _ => loggerName "core.formulation"

def ofForm (form : Int) (text : String) : String := "Form " ++ toString form ++ ": " ++ text

def message : Event → String
  | .reset form count => ofForm form ("reset " ++ toString count ++ " entities to perennial values")
  | .finished form status => ofForm form ("optimization finished with status " ++ status.name)
  | .noResult form => ofForm form "solver has no result to show"
  | .intrinsicCost form cost => ofForm form ("intrinsic cost = " ++ Number.text cost)
  | .cloned count source dest duty =>
      "Cloned " ++ toString count ++ " entities from form " ++ toString source ++ " into form "
        ++ toString dest ++ " as " ++ duty.name
  | .columnReported report => report.text

def record (e : Event) : LogRecord := ⟨e.level, e.logger, e.message⟩

/-- The events that a logger of the given level lets through. -/
def admitted (level : Int) (events : List Event) : List Event :=
  events.filter fun e => LogLevel.admits level e.level

end Event

end Decomposition
