import ProxyChain.Log.Record
import ProxyChain.Node.Kind

/-!
# ProxyChain.Error

**Errors** as the user meets them: each has a code, a category, a message, a hint where there is
one, and the answer to whether trying again may help.

The operations of the library report causes of their own (`CompileError`, refusals of edits,
faults of settings). `ChainError` is where they meet.
-/

namespace ProxyChain

/-! ### Compiling -/

/-- The largest pool of a round-robin node. -/
def maxPoolSize : Nat := 32

/-- Why a topology cannot be compiled. -/
inductive CompileError
  /-- A round-robin node has too few or too many pool members. -/
  | poolSize (tag : String) (size : Nat)
  /-- A pool with an output holds a node that stands for several others. -/
  | outputKind (candidate : String) (kind : NodeKind)
  /-- A managed node is a selector. -/
  | candidateKind (candidate : String) (kind : NodeKind)
  /-- Two pools send one member to different outputs. -/
  | conflictingOutput (candidate first second : String)
  /-- There is no port left for a group. -/
  | portExhausted (group : Nat) (port : UInt32)
  deriving Repr, DecidableEq

namespace CompileError

/-- The code of an error. -/
def code : CompileError → String
  | poolSize .. => "RR_POOL_SIZE"
  | outputKind .. => "RR_OUTPUT_TYPE"
  | candidateKind .. => "RR_CANDIDATE_TYPE"
  | conflictingOutput .. => "RR_CONFLICTING_OUTPUT"
  | portExhausted .. => "RR_PORT_EXHAUSTED"

/-- The message of an error. -/
def message : CompileError → String
  | poolSize tag size =>
    if size < 2 then
      s!"Round Robin node \"{tag}\" requires at least 2 pool links (to next hop)."
    else s!"Round Robin node \"{tag}\" exceeds max backends ({maxPoolSize})."
  | outputKind candidate kind =>
    s!"Round Robin output chaining does not support candidate \"{candidate}\" of type "
      ++ s!"\"{kind.name}\". Use protocol nodes instead."
  | candidateKind candidate kind =>
    s!"Round Robin output chaining does not support candidate \"{candidate}\" of type "
      ++ s!"\"{kind.name}\"."
  | conflictingOutput candidate first second =>
    s!"Round Robin candidate \"{candidate}\" has conflicting outputs (\"{first}\" vs "
      ++ s!"\"{second}\")."
  | portExhausted group port =>
    s!"Round Robin group {group} needs port {port.toNat}, which is outside the available port "
      ++ "range."

/-- What to do about an error. -/
def suggestion : CompileError → String
  | poolSize .. => "请为轮询节点连接 2 到 32 个下一跳节点"
  | conflictingOutput .. => "请让共享候选节点的轮询组使用同一个输出"
  | _ => "请在轮询池中只使用协议节点"

end CompileError

/-! ### All errors -/

/-- The categories of errors. -/
inductive ErrorCategory
  | topology
  | network
  | configuration
  | deploy
  | dataProcessing
  | system
  | userInput
  | internal
  deriving Repr, DecidableEq

/-- The name of a category. -/
def ErrorCategory.name : ErrorCategory → String
  | topology => "Topology"
  | network => "Network"
  | configuration => "Configuration"
  | deploy => "Deploy"
  | dataProcessing => "DataProcessing"
  | system => "System"
  | userInput => "UserInput"
  | internal => "Internal"

/-- An error. -/
inductive ChainError
  | compile (error : CompileError)
  | http (detail : String)
  | json (detail : String)
  | yaml (detail : String)
  | io (detail : String)
  | url (detail : String)
  | config (detail : String)
  | invalidParameter (detail : String)
  | notFound (detail : String)
  | deploy (detail : String)
  | network (detail : String)
  | timeout (detail : String)
  | other (detail : String)
  deriving Repr, DecidableEq

namespace ChainError

/-- The message of an error. -/
def message : ChainError → String
  | compile error => error.message
  | http detail => "HTTP request failed: " ++ detail
  | json detail => "JSON serialization error: " ++ detail
  | yaml detail => "YAML serialization error: " ++ detail
  | io detail => "IO error: " ++ detail
  | url detail => "URL parse error: " ++ detail
  | config detail => "Configuration error: " ++ detail
  | invalidParameter detail => "Invalid parameter: " ++ detail
  | notFound detail => "Resource not found: " ++ detail
  | deploy detail => "Deploy failed: " ++ detail
  | network detail => "Network connection error: " ++ detail
  | timeout detail => "Operation timeout: " ++ detail
  | other detail => "Other error: " ++ detail

/-- The code of an error. -/
def code : ChainError → String
  | compile error => error.code
  | http _ => "HTTP_ERROR"
  | json _ => "JSON_ERROR"
  | yaml _ => "YAML_ERROR"
  | io _ => "IO_ERROR"
  | url _ => "URL_PARSE_ERROR"
  | config _ => "CONFIG_ERROR"
  | invalidParameter _ => "INVALID_PARAMETER"
  | notFound _ => "NOT_FOUND"
  | deploy _ => "DEPLOY_ERROR"
  | network _ => "NETWORK_ERROR"
  | timeout _ => "TIMEOUT_ERROR"
  | other _ => "OTHER_ERROR"

/-- The category of an error. -/
def category : ChainError → ErrorCategory
  | compile _ => .topology
  | http _ | network _ | timeout _ => .network
  | config _ => .configuration
  | deploy _ => .deploy
  | json _ | yaml _ => .dataProcessing
  | io _ => .system
  | url _ | invalidParameter _ | notFound _ => .userInput
  | other _ => .internal

/-- Whether trying again may help. -/
def isRetryable : ChainError → Bool
  | http _ | network _ | timeout _ => true
  | _ => false

/-- What to do about an error. -/
def suggestion : ChainError → Option String
  | compile error => some error.suggestion
  | network _ | http _ => some "请检查运行时管理服务是否可达"
  | timeout _ => some "请尝试增加超时时间或检查网络延迟"
  | config _ => some "请检查配置文件格式和内容"
  | deploy _ => some "请查看服务端返回的校验详情"
  | invalidParameter _ => some "请检查输入参数的格式和有效性"
  | _ => none

/-- The record of an error where it arises. What a library reported is not recorded again. -/
def records (e : ChainError) : List Log.Record :=
  match e with
  | config _ | invalidParameter _ | notFound _ | deploy _ | network _ | timeout _ =>
    [.error .error s!"[{e.code}] {e.message}"]
  | compile _ | http _ | json _ | yaml _ | io _ | url _ | other _ => []

/-- A copy of an error to keep: what was reported by a library that reads text becomes text. -/
def copy : ChainError → ChainError
  | http detail => .network detail
  | json detail => .other ("JSON error: " ++ detail)
  | yaml detail => .other ("YAML error: " ++ detail)
  | e => e

end ChainError

end ProxyChain
