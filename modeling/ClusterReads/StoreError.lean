import ClusterReads.Operation

/-!
# Errors

What a read fails with, and what composing a store fails with.
-/
namespace ClusterReads

inductive StoreError where
  | deployNotFound (deployId : String)
  | backend (detail : String)
  | invalidArgument (detail : String)
  | serialization (detail : String)
  | timeout (detail : String)
  | unavailable (detail : String)
  | cache (detail : String)
  deriving DecidableEq, Repr, Inhabited

namespace StoreError

/-- The cause, without its detail. -/
def kind : StoreError → String
  | .deployNotFound _ => "DeployNotFound"
  | .backend _ => "Backend"
  | .invalidArgument _ => "InvalidArgument"
  | .serialization _ => "Serialization"
  | .timeout _ => "Timeout"
  | .unavailable _ => "Unavailable"
  | .cache _ => "Cache"

/-- The error of a kind. -/
def ofKind? (kind detail : String) : Option StoreError :=
  [.deployNotFound detail, .backend detail, .invalidArgument detail, .serialization detail,
    .timeout detail, .unavailable detail, .cache detail].find? fun e => e.kind == kind

def message : StoreError → String
  | .deployNotFound deployId => "部署记录未找到: " ++ deployId
  | .backend detail => "存储后端错误: " ++ detail
  | .invalidArgument detail => "无效的查询参数: " ++ detail
  | .serialization detail => "序列化错误: " ++ detail
  | .timeout detail => "操作超时: " ++ detail
  | .unavailable detail => "存储不可用: " ++ detail
  | .cache detail => "缓存错误: " ++ detail

/-- The record asked for does not exist. -/
def isNotFound : StoreError → Bool
  | .deployNotFound _ => true
  | _ => false

/-- The same call may succeed later. -/
def isRetryable : StoreError → Bool
  | .backend _ | .timeout _ | .unavailable _ => true
  | _ => false

end StoreError

/-- No delegate was given for a capability. -/
structure CompositionError where
  missing : Capability
  deriving DecidableEq, Repr

def CompositionError.message (e : CompositionError) : String :=
  "缺少必需的存储委托: " ++ Spelled.name e.missing

end ClusterReads
