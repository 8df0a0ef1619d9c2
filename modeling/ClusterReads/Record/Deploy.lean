import ClusterReads.Time.Timestamp

/-!
# Deploys

A record that an artifact was brought out.
-/
namespace ClusterReads

structure Deploy where
  deployId : String
  description : String
  artifact : String
  createdBy : String
  createdAt : Timestamp
  deriving DecidableEq, Repr, Inhabited

end ClusterReads
