import LoadDispatch.Store.Tables

/-!
The restart lock: a row with the holder's token and an expiry. An expired row counts as absent, so
it can be taken over and reads as unheld.
-/

namespace LoadDispatch

def restartKey (execution : Int) : String := "exec:restart:" ++ toString execution

namespace Database

/-- Takes a lock for a token unless someone holds it; true when the token holds it afterwards.
The expiry is `now` plus the lifetime, in 64-bit arithmetic. -/
def tryAcquire (db : Database) (key token : String) (ttlSecs : Nat) (now : Int) :
    Bool × Database :=
  let expires := wrapI64 (now + wrapI64 (ttlSecs * 1000))
  match db.locks.find? (·.key == key) with
  | some l =>
    if l.expiresAtMs ≤ now then (true, { db with locks := upsert LockRow.key ⟨key, token, expires⟩ db.locks })
    else (false, db)
  | none => (true, { db with locks := db.locks ++ [⟨key, token, expires⟩] })

/-- The token holding a lock, if it has not expired. -/
def lockHolder (db : Database) (key : String) (now : Int) : Option String :=
  match db.locks.find? (·.key == key) with
  | some l => if l.expiresAtMs > now then some l.token else none
  | none => none

/-- Releases a lock held by a token; a lock held by another token stays. -/
def release (db : Database) (key token : String) : Database :=
  { db with locks := db.locks.filter fun l => !(l.key == key && l.token == token) }

end Database

end LoadDispatch
