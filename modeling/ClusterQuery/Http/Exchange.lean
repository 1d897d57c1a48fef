import ClusterQuery.Http.Url
import ClusterQuery.Json.Raw

/-!
# HTTP exchanges

A request for a resource, and how the exchange may end: no answer comes about, none comes in
time, or a response with a status and a body, which may break off.
-/

namespace ClusterQuery

/-- A request for a JSON resource. -/
structure HttpRequest where
  url : Url
  /-- The token that the request carries. -/
  token : Option String
deriving DecidableEq, Repr

namespace HttpRequest

/-- The kind of content that is asked for. -/
def accept : String := "application/json"

/-- The value of the header that carries the token. -/
def authorization (request : HttpRequest) : Option String :=
  request.token.map fun token => "Bearer " ++ token

def line (request : HttpRequest) : String := "GET " ++ request.url.target ++ " HTTP/1.1"

end HttpRequest

/-- A response. -/
structure HttpResponse where
  status : Nat
  body : List UInt8
  /-- Whether the whole body came in. -/
  complete : Bool
deriving DecidableEq, Repr

/-- How an exchange ends. -/
inductive Exchange where
  /-- There is no connection, or it closes without a response. -/
  | broken
  /-- No response comes within the client's time. -/
  | silent
  | answered (response : HttpResponse)
deriving DecidableEq, Repr, Inhabited

namespace HttpResponse

def isSuccess (response : HttpResponse) : Bool := 200 ≤ response.status && response.status < 300

/-- The text of the body, whatever its bytes; empty where it broke off. -/
def looseText (response : HttpResponse) : String :=
  if response.complete then Text.decodeLossy response.body else ""

/-- The text of a body that is UTF-8 and came in whole. -/
def strictText? (response : HttpResponse) : Option String :=
  if response.complete then Text.decodeStrict? response.body else none

/-- The document of a body that came in whole, as it is spelt. -/
def document? (response : HttpResponse) : Option RawJson :=
  if response.complete then RawJson.ofBytes? response.body else none

end HttpResponse

/-- The wording of a request that had no response. -/
def HttpRequest.unsentText (request : HttpRequest) : String :=
  "error sending request for url (" ++ request.url.text ++ ")"

def reasonPhrase (status : Nat) : String :=
  match status with
  | 100 => "Continue"
  | 101 => "Switching Protocols"
  | 102 => "Processing"
  | 103 => "Early Hints"
  | 200 => "OK"
  | 201 => "Created"
  | 202 => "Accepted"
  | 203 => "Non Authoritative Information"
  | 204 => "No Content"
  | 205 => "Reset Content"
  | 206 => "Partial Content"
  | 207 => "Multi-Status"
  | 208 => "Already Reported"
  | 226 => "IM Used"
  | 300 => "Multiple Choices"
  | 301 => "Moved Permanently"
  | 302 => "Found"
  | 303 => "See Other"
  | 304 => "Not Modified"
  | 305 => "Use Proxy"
  | 307 => "Temporary Redirect"
  | 308 => "Permanent Redirect"
  | 400 => "Bad Request"
  | 401 => "Unauthorized"
  | 402 => "Payment Required"
  | 403 => "Forbidden"
  | 404 => "Not Found"
  | 405 => "Method Not Allowed"
  | 406 => "Not Acceptable"
  | 407 => "Proxy Authentication Required"
  | 408 => "Request Timeout"
  | 409 => "Conflict"
  | 410 => "Gone"
  | 411 => "Length Required"
  | 412 => "Precondition Failed"
  | 413 => "Payload Too Large"
  | 414 => "URI Too Long"
  | 415 => "Unsupported Media Type"
  | 416 => "Range Not Satisfiable"
  | 417 => "Expectation Failed"
  | 418 => "I'm a teapot"
  | 421 => "Misdirected Request"
  | 422 => "Unprocessable Entity"
  | 423 => "Locked"
  | 424 => "Failed Dependency"
  | 425 => "Too Early"
  | 426 => "Upgrade Required"
  | 428 => "Precondition Required"
  | 429 => "Too Many Requests"
  | 431 => "Request Header Fields Too Large"
  | 451 => "Unavailable For Legal Reasons"
  | 500 => "Internal Server Error"
  | 501 => "Not Implemented"
  | 502 => "Bad Gateway"
  | 503 => "Service Unavailable"
  | 504 => "Gateway Timeout"
  | 505 => "HTTP Version Not Supported"
  | 506 => "Variant Also Negotiates"
  | 507 => "Insufficient Storage"
  | 508 => "Loop Detected"
  | 510 => "Not Extended"
  | 511 => "Network Authentication Required"
  | _ => "<unknown status code>"

def statusText (status : Nat) : String := s!"{status} " ++ reasonPhrase status

end ClusterQuery
