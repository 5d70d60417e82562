/-!
An instant in epoch milliseconds written as an RFC 3339 UTC timestamp, with milliseconds only when
they are not zero.
-/

namespace LoadDispatch

namespace Timestamp

/-- The civil date (year, month, day) of a day count since 1970-01-01. -/
def civil (days : Nat) : Nat × Nat × Nat :=
  let z := days + 719468
  let era := z / 146097
  let doe := z - era * 146097
  let yoe := (doe - doe / 1460 + doe / 36524 - doe / 146096) / 365
  let doy := doe - (365 * yoe + yoe / 4 - yoe / 100)
  let mp := (5 * doy + 2) / 153
  let d := doy - (153 * mp + 2) / 5 + 1
  let m := if mp < 10 then mp + 3 else mp - 9
  let y := yoe + era * 400 + (if m ≤ 2 then 1 else 0)
  (y, m, d)

def padded (width n : Nat) : String :=
  let s := toString n
  String.ofList (List.replicate (width - s.length) '0') ++ s

/-- The RFC 3339 text of an instant at or after the epoch. -/
def rfc3339 (ms : Int) : String :=
  let ms := ms.toNat
  let secs := ms / 1000
  let (y, mo, d) := civil (secs / 86400)
  let t := secs % 86400
  let frac := if ms % 1000 == 0 then "" else "." ++ padded 3 (ms % 1000)
  padded 4 y ++ "-" ++ padded 2 mo ++ "-" ++ padded 2 d ++ "T" ++ padded 2 (t / 3600) ++ ":" ++
    padded 2 (t % 3600 / 60) ++ ":" ++ padded 2 (t % 60) ++ frac ++ "Z"

end Timestamp

end LoadDispatch
