import ProxyChain.Config.Codec
import ProxyChain.Error
import ProxyChain.Json.Reader
import ProxyChain.Net.Exchange
import ProxyChain.Text.Blank

/-!
# ProxyChain.Deploy.Response

**What the runtime manager answers** when a config is sent to it. A reply is judged twice: whether
there is an answer that can be read at all, which may be worth another attempt, and then whether
the manager took the config.
-/

namespace ProxyChain

open Json

/-- An answer of the runtime manager. -/
structure SaveResponse where
  status : String
  message : Option String := none
  /-- What the manager found out about the config, in lines. -/
  detail : Option String := none
  deriving Repr, DecidableEq, Inhabited

namespace SaveResponse

/-- Whether the config was taken. -/
def isSuccess (response : SaveResponse) : Bool :=
  response.status = "success"

/-- Reads an answer. -/
def ofDocument (d : Document) : Except Fault SaveResponse := do
  let fields ← Fields.ofRecord ["status", "message", "detail"] d
  return {
    status := ← fields.required "status" Document.text
    message := ← fields.optional "message" Document.text
    detail := ← fields.optional "detail" Document.text }

/-- Writes an answer, also what there is none of. -/
def toValue (response : SaveResponse) : Value :=
  .object [("status", .string response.status),
    ("message", response.message.elim .null .string),
    ("detail", response.detail.elim .null .string)]

/-- The lines of the detail without blanks around them, empty ones left out. -/
def detailLines (response : SaveResponse) : List String :=
  ((Text.lines (response.detail.getD "")).map Text.trim).filter (· ≠ "")

/-- The records of the detail. -/
def detailRecords (response : SaveResponse) : List Log.Record :=
  response.detailLines.map fun line =>
    if response.isSuccess then .info .deploy line else .error .deploy line

/-- Why a config was not taken. -/
def rejection (response : SaveResponse) : ChainError :=
  .deploy ((response.message.filter (· ≠ "")).getD "Config save failed")

/-- The record of a config that was taken. -/
def successRecord (response : SaveResponse) : Log.Record :=
  .info .deploy (response.message.getD "Config saved")

/-- The answer in a reply, or the error that the reply stands for. -/
def ofReply : Net.Reply → Except ChainError SaveResponse
  | .timedOut detail => .error (.timeout ("save_config timed out: " ++ detail))
  | .unreachable detail => .error (.network ("HTTP request failed: " ++ detail))
  | .unreadable detail => .error (.network ("Failed to read response: " ++ detail))
  | .answer status body =>
    if Net.isServerFault status then
      .error (.network s!"API request failed: {Net.statusText status} - {body}")
    else if Net.isSuccess status then
      (Json.decode ofDocument body).mapError fun fault => .json fault.message
    else .error (.deploy s!"{Net.statusText status} - {body}")

end SaveResponse

end ProxyChain
