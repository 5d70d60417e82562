/-!
The life cycle of an execution and the four kinds of test script, with their exact, case-sensitive
spellings.
-/

namespace LoadDispatch

/-- Where an execution stands. -/
inductive ExecutionStatus where
  | pending
  | scheduling
  | running
  | completed
  | failed
  | stopped
  deriving DecidableEq, Repr, Inhabited

namespace ExecutionStatus

def all : List ExecutionStatus := [.pending, .scheduling, .running, .completed, .failed, .stopped]

def text : ExecutionStatus → String
  | .pending => "PENDING"
  | .scheduling => "SCHEDULING"
  | .running => "RUNNING"
  | .completed => "COMPLETED"
  | .failed => "FAILED"
  | .stopped => "STOPPED"

/-- Completed, failed and stopped executions are over. -/
def isTerminal : ExecutionStatus → Bool
  | .completed | .failed | .stopped => true
  | _ => false

def ofText? (s : String) : Option ExecutionStatus := all.find? (·.text == s)

def parse (s : String) : Except String ExecutionStatus :=
  match ofText? s with
  | some st => .ok st
  | none => .error ("unknown execution status '" ++ s ++ "'")

end ExecutionStatus

/-- The kind of a test script, which decides how its run is judged. -/
inductive ScriptType where
  | functional
  | performance
  | stability
  | customized
  deriving DecidableEq, Repr, Inhabited

namespace ScriptType

def all : List ScriptType := [.functional, .performance, .stability, .customized]

def text : ScriptType → String
  | .functional => "functional"
  | .performance => "performance"
  | .stability => "stability"
  | .customized => "customized"

def ofText? (s : String) : Option ScriptType := all.find? (·.text == s)

def parse (s : String) : Except String ScriptType :=
  match ofText? s with
  | some t => .ok t
  | none => .error ("unknown script type '" ++ s ++ "'")

end ScriptType

end LoadDispatch
