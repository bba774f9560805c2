import ProxyChain.Net.Url

/-!
# ProxyChain.Net.Exchange

**Exchanges with a peer**: a request that carries a JSON text, and all that may come back for it.
-/

namespace ProxyChain.Net

/-- A request that posts a JSON text. -/
structure Request where
  url : Url
  body : String
  /-- How long an answer is waited for, in seconds. -/
  patience : UInt64
  deriving Repr, DecidableEq

/-- What comes back for a request. -/
inductive Reply
  /-- There was no answer. -/
  | unreachable (detail : String)
  /-- There was no answer in time. -/
  | timedOut (detail : String)
  /-- There was an answer, but its text could not be read to the end. -/
  | unreadable (detail : String)
  | answer (status : Nat) (body : String)
  deriving Repr, DecidableEq

/-- The standard phrases for the codes of answers. -/
def statusPhrases : List (Nat × String) :=
  [(100, "Continue"), (101, "Switching Protocols"), (102, "Processing"),
    (200, "OK"), (201, "Created"), (202, "Accepted"), (203, "Non Authoritative Information"),
    (204, "No Content"), (205, "Reset Content"), (206, "Partial Content"),
    (207, "Multi-Status"), (208, "Already Reported"), (226, "IM Used"),
    (300, "Multiple Choices"), (301, "Moved Permanently"), (302, "Found"), (303, "See Other"),
    (304, "Not Modified"), (305, "Use Proxy"), (307, "Temporary Redirect"),
    (308, "Permanent Redirect"),
    (400, "Bad Request"), (401, "Unauthorized"), (402, "Payment Required"), (403, "Forbidden"),
    (404, "Not Found"), (405, "Method Not Allowed"), (406, "Not Acceptable"),
    (407, "Proxy Authentication Required"), (408, "Request Timeout"), (409, "Conflict"),
    (410, "Gone"), (411, "Length Required"), (412, "Precondition Failed"),
    (413, "Payload Too Large"), (414, "URI Too Long"), (415, "Unsupported Media Type"),
    (416, "Range Not Satisfiable"), (417, "Expectation Failed"), (418, "I'm a teapot"),
    (421, "Misdirected Request"), (422, "Unprocessable Entity"), (423, "Locked"),
    (424, "Failed Dependency"), (426, "Upgrade Required"), (428, "Precondition Required"),
    (429, "Too Many Requests"), (431, "Request Header Fields Too Large"),
    (451, "Unavailable For Legal Reasons"),
    (500, "Internal Server Error"), (501, "Not Implemented"), (502, "Bad Gateway"),
    (503, "Service Unavailable"), (504, "Gateway Timeout"), (505, "HTTP Version Not Supported"),
    (506, "Variant Also Negotiates"), (507, "Insufficient Storage"), (508, "Loop Detected"),
    (510, "Not Extended"), (511, "Network Authentication Required")]

/-- The code of an answer with its phrase. -/
def statusText (status : Nat) : String :=
  let phrase := (statusPhrases.lookup status).getD "<unknown status code>"
  s!"{status} {phrase}"

/-- Whether a code says that the request was served. -/
def isSuccess (status : Nat) : Bool :=
  200 ≤ status && status < 300

/-- Whether a code says that the peer is at fault. -/
def isServerFault (status : Nat) : Bool :=
  500 ≤ status && status < 600

end ProxyChain.Net
