import ApiClient.Http.Request
import ApiClient.Json.Encoding

/-!
# Replies and failures

A reply is a status and its content. A reply whose status means an error is reported together
with a scrubbed copy of the request, so that the report shows no credentials.
-/

namespace ApiClient.Http

/-- The registered reason phrases. -/
def reasonPhrases : List (Int × String) :=
  [(100, "Continue"), (101, "Switching Protocols"), (102, "Processing"), (103, "Early Hints"),
    (200, "OK"), (201, "Created"), (202, "Accepted"), (203, "Non-Authoritative Information"),
    (204, "No Content"), (205, "Reset Content"), (206, "Partial Content"),
    (207, "Multi-Status"), (208, "Already Reported"), (226, "IM Used"),
    (300, "Multiple Choices"), (301, "Moved Permanently"), (302, "Found"), (303, "See Other"),
    (304, "Not Modified"), (305, "Use Proxy"), (307, "Temporary Redirect"),
    (308, "Permanent Redirect"),
    (400, "Bad Request"), (401, "Unauthorized"), (402, "Payment Required"), (403, "Forbidden"),
    (404, "Not Found"), (405, "Method Not Allowed"), (406, "Not Acceptable"),
    (407, "Proxy Authentication Required"), (408, "Request Timeout"), (409, "Conflict"),
    (410, "Gone"), (411, "Length Required"), (412, "Precondition Failed"),
    (413, "Request Entity Too Large"), (414, "Request-URI Too Long"),
    (415, "Unsupported Media Type"), (416, "Requested Range Not Satisfiable"),
    (417, "Expectation Failed"), (418, "I'm a teapot"), (421, "Misdirected Request"),
    (422, "Unprocessable Entity"), (423, "Locked"), (424, "Failed Dependency"),
    (425, "Too Early"), (426, "Upgrade Required"), (428, "Precondition Required"),
    (429, "Too Many Requests"), (431, "Request Header Fields Too Large"),
    (451, "Unavailable For Legal Reasons"),
    (500, "Internal Server Error"), (501, "Not Implemented"), (502, "Bad Gateway"),
    (503, "Service Unavailable"), (504, "Gateway Timeout"), (505, "HTTP Version Not Supported"),
    (506, "Variant Also Negotiates"), (507, "Insufficient Storage"), (508, "Loop Detected"),
    (510, "Not Extended"), (511, "Network Authentication Required")]

structure Reply where
  status : Int
  content : List UInt8

namespace Reply

/-- The phrase of the status, empty for one that is not registered. -/
def reason (r : Reply) : String := (reasonPhrases.lookup r.status).getD ""

/-- The document in the content. Empty content counts as null. -/
def document (r : Reply) : Except Json.OctetRefusal Value :=
  if r.content.isEmpty then .ok .null else Json.readOctets r.content

end Reply

/-- A reply that counts as an error, with a copy of its request that may be shown. -/
structure Rejection where
  request : Request
  reply : Reply

namespace Rejection

def of (request : Request) (reply : Reply) : Except Fault Rejection :=
  return ⟨← request.scrubbed, reply⟩

def text (r : Rejection) : String :=
  s!"{r.reply.status} {r.reply.reason} ({r.request.method} {r.request.pathname})"

end Rejection

/-- Why a request has no result. -/
inductive Failure where
  | rejected (rejection : Rejection)
  /-- The transport cannot reach the server. -/
  | unreachable (message : String)
  /-- A middleware gives up. -/
  | stopped (message : String)
  /-- The entries of a form have no encoding under the content type. -/
  | unencodedForm (contentType : String)
  | undecodable (why : Json.OctetRefusal)
  | fault (f : Fault)

namespace Failure

/-- The failure that reports a reply as an error. -/
def ofReply (request : Request) (reply : Reply) : Failure :=
  match Rejection.of request reply with
  | .ok rejection => .rejected rejection
  | .error f => .fault f

/-- The account of a failure, where there is more to say than its kind. -/
def text? : Failure → Option String
  | rejected r => some r.text
  | unreachable message | stopped message => some message
  | unencodedForm contentType =>
    let shown := quote (if contentType = "" then "none" else contentType)
    some s!"dict body needs a form Content-Type, got {shown}; encode it first"
  | undecodable _ | fault _ => none

end Failure

end ApiClient.Http
