import ClusterReads.Keyed
import ClusterReads.Spelled

/-!
# Jobs

A job is named by the role that owns it, its environment and its own name, and is described by the
template of its tasks.
-/
namespace ClusterReads

/-- The manager of jobs that run at once. -/
def immediateManager : String :=
  "IMMEDIATE"

/-- The manager of jobs that run on a schedule. -/
def cronManager : String :=
  "CRON"

structure JobKey where
  role : String
  environment : String
  name : String
  deriving DecidableEq, Repr, Inhabited

/-- Letters and digits of ASCII, underscore, hyphen and full stop. -/
def isIdentifierChar (c : Char) : Bool :=
  c.isAlphanum || c = '_' || c = '-' || c = '.'

def isIdentifier (s : String) : Bool :=
  !s.isEmpty && s.toList.all isIdentifierChar

namespace JobKey

/-- By role, then environment, then name. -/
instance : Ord JobKey where
  compare := compareLex (compareOn (·.role)) (compareLex (compareOn (·.environment)) (compareOn (·.name)))

instance : Std.TransOrd JobKey :=
  inferInstanceAs (Std.TransCmp (compareLex (compareOn JobKey.role)
    (compareLex (compareOn JobKey.environment) (compareOn JobKey.name))))

instance : Std.LawfulEqOrd JobKey where
  eq_of_compare {a b} h := by
    have h : (compareLex (compareOn JobKey.role) (compareLex (compareOn JobKey.environment)
      (compareOn JobKey.name))) a b = .eq := h
    simp only [compareLex, compareOn, Ordering.then_eq_eq, Std.LawfulEqOrd.compare_eq_iff_eq] at h
    cases a
    cases b
    simp_all

/-- Every part is an identifier. -/
def isValid (k : JobKey) : Bool :=
  isIdentifier k.role && isIdentifier k.environment && isIdentifier k.name

def text (k : JobKey) : String :=
  k.role ++ "/" ++ k.environment ++ "/" ++ k.name

end JobKey

/-- A role and the user who acts for it. -/
structure Identity where
  role : String
  user : String
  deriving DecidableEq, Repr, Inhabited

inductive ConstraintKind where
  /-- A host attribute has one of the values, or none of them if negated. -/
  | value (negated : Bool) (values : List String)
  /-- At most so many tasks of the job share a value of the attribute. -/
  | limit (count : UInt32)
  deriving DecidableEq, Repr, Inhabited

structure Constraint where
  name : String
  kind : ConstraintKind
  deriving DecidableEq, Repr, Inhabited

namespace Constraint

def value (name : String) (values : List String) : Constraint :=
  ⟨name, .value false values⟩

def limit (name : String) (count : UInt32) : Constraint :=
  ⟨name, .limit count⟩

end Constraint

/-- The template of a job's tasks. -/
structure TaskConfig where
  job : JobKey
  owner : Identity
  isService : Bool
  numCpus : Float
  ramMb : UInt64
  diskMb : UInt64
  priority : Int32
  maxTaskFailures : Int32
  production : Bool
  constraints : List Constraint
  contactEmail : Option String
  deriving BEq, Repr, Inhabited

/-- What happens when a scheduled run finds the run before it unfinished. -/
inductive CollisionPolicy where
  | killExisting
  | cancelNew
  | runOverlap
  deriving DecidableEq, Repr

instance : Inhabited CollisionPolicy := ⟨.killExisting⟩

instance : Spelled CollisionPolicy where
  all := [.killExisting, .cancelNew, .runOverlap]
  name
    | .killExisting => "KILL_EXISTING"
    | .cancelNew => "CANCEL_NEW"
    | .runOverlap => "RUN_OVERLAP"
  mem_all a := by cases a <;> decide
  name_injective a b := by cases a <;> cases b <;> decide

structure JobConfiguration where
  key : JobKey
  owner : Identity
  taskConfig : TaskConfig
  instanceCount : UInt32
  cronSchedule : Option String
  collisionPolicy : CollisionPolicy
  deriving BEq, Repr, Inhabited

/-- The job runs on a schedule. -/
def JobConfiguration.isCron (j : JobConfiguration) : Bool :=
  j.cronSchedule.isSome

example : (JobKey.mk "www-data" "prod" "hello").text = "www-data/prod/hello" := by decide
example : (JobKey.mk "role" "de/vel" "job").isValid = false := by decide

end ClusterReads
