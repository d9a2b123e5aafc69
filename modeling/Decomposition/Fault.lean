import Decomposition.Ref

namespace Decomposition

/-- Why a path does not lead to a file. -/
inductive FileFault where
  | missing
  | isFolder
  /-- The path goes on after a file. -/
  | notFolder
  /-- A folder is to be made where a file is. -/
  | occupied
  /-- Also of a path as a whole. -/
  | nameTooLong
  /-- Too many folders on the way are missing. -/
  | tooDeep

/-- Why an operation is refused. -/
inductive Fault where
  /-- A look-up found no entry. -/
  | missing (key : Ref) (place : String)
  | missingFormulation (uid : Int)
  /-- A coefficient relation no longer accepts writes. -/
  | frozen
  | maximization (form : Int)
  | minimizeOnly
  | notAnIdent (typeName : String)
  | notAnEntity (typeName : String)
  | lengthMismatch (entities memberships : Nat)
  | noBackend (form : Int)
  | foreignFormulation (uid : Int)
  | unknownLevel (name : String)
  | unknownBackend (name : String)
  | badType
  | badValue
  | overflow
  | zeroDivisor
  /-- A value has not the part that is asked of it. -/
  | noSuchPart
  /-- A name stands for nothing. -/
  | unknownName
  /-- A list ends before the position that is asked for. -/
  | noSuchPosition
  /-- A solver does not take what it is offered. -/
  | refusedBySolver
  | file (cause : FileFault)

namespace Fault

/-- Only what the library itself detects has a message. A value that cannot be converted or cannot
serve as a key, a file that cannot be reached and a solver that refuses its input have none. -/
def message? : Fault → Option String
  | .missing key place => some (key.describe ++ " not found in " ++ place)
  | .missingFormulation uid =>
      some ("Formulation " ++ toString uid ++ " not found in registry")
  | .frozen => some "CoefficientRelation is frozen"
  | .maximization form =>
      some ("Form " ++ toString form ++ ": maximization is not supported")
  | .minimizeOnly => some "Solver backends only accept the minimize sense"
  | .notAnIdent typeName => some ("Expected VarId or ConstrId, got " ++ typeName)
  | .notAnEntity typeName => some ("Cannot add " ++ typeName ++ " to a formulation")
  | .lengthMismatch entities memberships =>
      some ("Got " ++ toString entities ++ " entities but " ++ toString memberships
        ++ " memberships")
  | .noBackend form =>
      some ("Form " ++ toString form ++ ": no solver backend to optimize with")
  | .foreignFormulation uid =>
      some ("Formulation " ++ toString uid ++ " is not registered here")
  | .unknownLevel name => some ("Unknown log level: Level " ++ name)
  | .unknownBackend name =>
      some ("Unknown solver backend " ++ Text.quoted name
        ++ " (expected one of ['cplex', 'highs'])")
  | .badType | .badValue | .overflow | .zeroDivisor | .noSuchPart | .unknownName | .noSuchPosition
  | .refusedBySolver | .file _ => none

end Fault

/-- Only an identifier has a uid, a duty and formulations. -/
def Ref.toIdent : Ref → Except Fault Ident
  | .ident id => .ok id
  | .other _ => .error .noSuchPart

/-- An operation that may be refused after part of its work. The state is the one it leaves behind,
whether it succeeded or not. -/
structure Outcome (σ α : Type) where
  state : σ
  result : Except Fault α

namespace Outcome
variable {σ α β : Type}

def ok (state : σ) (a : α) : Outcome σ α := ⟨state, .ok a⟩
def refuse (state : σ) (fault : Fault) : Outcome σ α := ⟨state, .error fault⟩

/-- The next step runs on the state left behind, and only after a success. -/
def andThen (first : Outcome σ α) (next : σ → α → Outcome σ β) : Outcome σ β :=
  match first.result with
  | .ok a => next first.state a
  | .error fault => refuse first.state fault

/-- A refused change leaves the state as it was. -/
def ofChange (state : σ) (change : Except Fault σ) : Outcome σ Unit :=
  match change with
  | .ok changed => ok changed ()
  | .error fault => refuse state fault

def map (f : α → β) (o : Outcome σ α) : Outcome σ β := ⟨o.state, o.result.map f⟩

/-- What is read off the answer may be refused. The state stays. -/
def read (f : α → Except Fault β) (o : Outcome σ α) : Outcome σ β := ⟨o.state, o.result.bind f⟩

/-- The step is taken for every item in turn, up to the first that is refused. What the steps before
it have changed stays. -/
def forEach (step : σ → α → Outcome σ Unit) (state : σ) : List α → Outcome σ Unit
  | [] => ok state ()
  | a :: rest => (step state a).andThen fun next _ => forEach step next rest

end Outcome

end Decomposition
