import ProxyChain.Net.Exchange

/-!
# ProxyChain.Net.Wire

**Exchanges on the wire**: how a request is written to a connection, and how a reply is read off
all that came back. The peer is asked to close the connection behind its reply, so that the reply
needs no length.
-/

namespace ProxyChain.Net

/-- Where a peer listens. -/
structure Endpoint where
  host : String
  port : UInt16
  deriving Repr, DecidableEq

/-- Where the peer of an address listens, unless it wants encryption. -/
def Url.endpoint? (url : Url) : Option Endpoint := do
  let authority ← url.authority
  let port ← Url.defaultPort? url.scheme
  if url.scheme = "http" then
    let (host, given) := Url.splitPort false (Url.splitUser authority.toList).2
    let port := (given.bind (Text.readDigits? 10)).getD port
    return ⟨String.ofList (host.filter fun c => c ≠ '[' ∧ c ≠ ']'), port.toUInt16⟩
  else none

/-- The path of an address with its query. -/
def Url.target (url : Url) : String :=
  url.path.render ++ url.query.elim "" ("?" ++ ·)

/-- A request as it is written to a connection. -/
def Request.wire (request : Request) : String :=
  let host := (Url.splitUser (request.url.authority.getD "").toList).2
  "\r\n".intercalate [
    s!"POST {request.url.target} HTTP/1.0",
    "Host: " ++ String.ofList host,
    "Content-Type: application/json",
    s!"Content-Length: {request.body.utf8ByteSize}",
    "Accept: */*",
    "Connection: close",
    "",
    request.body]

/-- The code in the first line of a reply. -/
def statusOf? (line : String) : Option Nat :=
  match line.splitOn " " with
  | version :: code :: _ => if version.startsWith "HTTP/" then Text.readDigits? 10 code.toList else none
  | _ => none

/-- Reads a reply off the text that came back. -/
def Reply.ofWire (text : String) : Reply :=
  match text.splitOn "\r\n\r\n" with
  | head :: body =>
    match statusOf? ((head.splitOn "\r\n").headD "") with
    | some status => .answer status ("\r\n\r\n".intercalate body)
    | none => .unreachable "connection closed before message completed"
  | [] => .unreachable "connection closed before message completed"

end ProxyChain.Net
