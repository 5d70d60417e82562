import LoadDispatch.Run.Outcome

/-!
An agent's reply to a command and the outcome it gives its node. A refusal is reported by the first
console line with an error marker, a runner that died while starting by the tail of its console, and
the agent's message stands in when the console has nothing to say.
-/

namespace LoadDispatch

/-- What an agent answers to a command. -/
structure AgentReply where
  success : Bool
  deviceId : Int
  message : String
  console : List String := []
  exitCode : Int
  deriving DecidableEq, Repr, Inhabited

def hasInfix (needle : List Char) : List Char → Bool
  | [] => needle.isEmpty
  | c :: rest => needle.isPrefixOf (c :: rest) || hasInfix needle rest

def errorMarkers : List String := ["[ERROR]", "Exception", "FATAL"]

def isErrorLine (line : String) : Bool := errorMarkers.any fun m => hasInfix m.toList line.toList

/-- The last `maxChars` characters of the console lines joined by line feeds. -/
def consoleTail (lines : List String) (maxChars : Nat) : String :=
  let cs := ("\n".intercalate lines).toList
  String.ofList (cs.drop (cs.length - maxChars))

def startExceptionExitCode : Int := 2

namespace AgentReply

/-- The outcome of a command on a node from the agent's reply. -/
def classify (node : Int) (r : AgentReply) (tailChars : Nat) : NodeOutcome :=
  if r.success then NodeOutcome.accepted node r.message
  else if r.exitCode == startExceptionExitCode then
    let tail := consoleTail r.console tailChars
    NodeOutcome.failed (some node) .startException (if tail.isEmpty then r.message else tail)
  else
    NodeOutcome.failed (some node) .agentError ((r.console.find? isErrorLine).getD r.message)

end AgentReply

end LoadDispatch
