import ClusterReads.Record.Job
import ClusterReads.Time.Timestamp

/-!
# Locks

A lock guards changes to one resource. The only resources with locks are jobs.
-/
namespace ClusterReads

inductive LockKey where
  | job (key : JobKey)
  deriving DecidableEq, Repr, Inhabited

namespace LockKey

def jobKey : LockKey → JobKey
  | .job key => key

instance : Ord LockKey where
  compare := compareOn jobKey

instance : Std.TransOrd LockKey :=
  inferInstanceAs (Std.TransCmp (compareOn jobKey))

instance : Std.LawfulEqOrd LockKey where
  eq_of_compare {a b} h := by
    cases a
    cases b
    exact congrArg LockKey.job (Std.LawfulEqOrd.eq_of_compare h)

def text : LockKey → String
  | .job key => "job:" ++ key.text

end LockKey

structure Lock where
  key : LockKey
  token : String
  user : String
  timestamp : Timestamp
  message : Option String
  deriving DecidableEq, Repr, Inhabited

namespace Lock

/-- A lock without a message, taken now under a fresh token. -/
def acquire (key : LockKey) (user : String) (token : String) (now : Timestamp) : Lock :=
  ⟨key, token, user, now, none⟩

def withMessage (l : Lock) (message : String) : Lock :=
  { l with message := some message }

end Lock

end ClusterReads
