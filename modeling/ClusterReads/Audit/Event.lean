import ClusterReads.Json.Codec
import ClusterReads.Operation
import ClusterReads.Record.Codec

/-!
# Audit events

What an audited read was about and how it went.
-/
namespace ClusterReads

inductive AuditOutcome where
  /-- The read returned data. -/
  | success
  /-- A lookup by key found nothing. -/
  | absent
  /-- The read failed with this message. -/
  | failed (message : String)
  deriving DecidableEq, Repr, Inhabited

structure AuditEvent where
  operation : Operation
  /-- The key the read was scoped to, if any. -/
  subject : Option String
  outcome : AuditOutcome
  timestamp : Timestamp
  deriving DecidableEq, Repr, Inhabited

open JsonCodec

instance : JsonCodec AuditOutcome where
  encode
    | .success => Json.text "Success"
    | .absent => Json.text "Absent"
    | .failed message => .record ["Failed"] [encode message]
  decode
    | .string (some "Success") | .object [(some "Success", .null)] => some .success
    | .string (some "Absent") | .object [(some "Absent", .null)] => some .absent
    | .object [(some "Failed", j)] => (decode j).map .failed
    | _ => none

def AuditEvent.fieldNames : List String :=
  ["operation", "subject", "outcome", "timestamp"]

instance : JsonCodec AuditEvent where
  encode e := .record AuditEvent.fieldNames
    [encode e.operation, encode e.subject, encode e.outcome, encode e.timestamp]
  decode j := do
    match ← fields? AuditEvent.fieldNames j with
    | [operation, subject, outcome, timestamp] =>
      return ⟨← field operation, ← field subject, ← field outcome, ← field timestamp⟩
    | _ => none

end ClusterReads
