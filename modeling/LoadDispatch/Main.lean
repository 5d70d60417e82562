import LoadDispatch.Console.Line

/-!
Serves the request console: one JSON request per line on standard input, and one answer line for
each on standard output.
-/

open LoadDispatch

def chompLine (line : String) : String :=
  String.ofList ((line.toList.reverse.dropWhile fun c => c == '\n' || c == '\r').reverse)

/-- Answers lines until the input ends. -/
partial def serveLines (input output : IO.FS.Stream) : IO Unit := do
  let line ← input.getLine
  if line.isEmpty then return
  output.putStrLn (Console.answerLine (chompLine line))
  output.flush
  serveLines input output

def main : IO Unit := do
  serveLines (← IO.getStdin) (← IO.getStdout)
