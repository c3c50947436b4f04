/-
Requests and responses, as the HTTP framework documents them.

* `Http.Request`: a request, with `Http.Request.header?` and `Http.Request.path`;
* `Http.Status.reason?`: the standard reason for the number of a status;
* `Http.Response`: a response, as far as a client can rely on it.
-/
import ReplicatedCache.Text.Utf8

namespace ReplicatedCache.Http

/-- A request. -/
structure Request where
  method : String
  /-- What the request is about: a path with query and fragment, or a full address. -/
  target : String
  headers : List (String × String)
  body : Bytes
  deriving DecidableEq, Repr

namespace Request

/-- A name of a header in lower case. -/
def lowerName (name : String) : List Char := name.toList.map Char.toLower

/-- The value of the first header of a name, in whatever case it is written. -/
def header? (r : Request) (name : String) : Option String :=
  (r.headers.find? fun header => lowerName header.1 = lowerName name).map Prod.snd

/-- The characters before a query or a fragment. -/
def dropQuery (cs : List Char) : List Char := cs.takeWhile fun c => c ≠ '?' && c ≠ '#'

/-- Whether a character may stand in the name of a scheme. -/
def isSchemeChar (c : Char) : Bool := c.isAlphanum || c = '+' || c = '-' || c = '.'

/-- The part of a full address behind its scheme and two slashes. -/
def afterScheme? (cs : List Char) : Option (List Char) :=
  match cs.span isSchemeChar with
  | (_ :: _, ':' :: '/' :: '/' :: rest) => some rest
  | _ => none

/-- The path of a target. That of a full address starts at the first slash behind the host; other
targets have none. -/
def path (r : Request) : List Char :=
  match r.target.toList with
  | '/' :: rest => dropQuery ('/' :: rest)
  | cs =>
      match afterScheme? cs with
      | none => []
      | some rest =>
          match (dropQuery rest).dropWhile (· ≠ '/') with
          | [] => ['/']
          | found => found

end Request

namespace Status

/-- The standard reason for the number of a status. -/
def reason? : Nat → Option String
  | 100 => some "Continue"
  | 101 => some "Switching Protocols"
  | 102 => some "Processing"
  | 200 => some "OK"
  | 201 => some "Created"
  | 202 => some "Accepted"
  | 203 => some "Non Authoritative Information"
  | 204 => some "No Content"
  | 205 => some "Reset Content"
  | 206 => some "Partial Content"
  | 207 => some "Multi-Status"
  | 208 => some "Already Reported"
  | 226 => some "IM Used"
  | 300 => some "Multiple Choices"
  | 301 => some "Moved Permanently"
  | 302 => some "Found"
  | 303 => some "See Other"
  | 304 => some "Not Modified"
  | 305 => some "Use Proxy"
  | 307 => some "Temporary Redirect"
  | 308 => some "Permanent Redirect"
  | 400 => some "Bad Request"
  | 401 => some "Unauthorized"
  | 402 => some "Payment Required"
  | 403 => some "Forbidden"
  | 404 => some "Not Found"
  | 405 => some "Method Not Allowed"
  | 406 => some "Not Acceptable"
  | 407 => some "Proxy Authentication Required"
  | 408 => some "Request Timeout"
  | 409 => some "Conflict"
  | 410 => some "Gone"
  | 411 => some "Length Required"
  | 412 => some "Precondition Failed"
  | 413 => some "Payload Too Large"
  | 414 => some "URI Too Long"
  | 415 => some "Unsupported Media Type"
  | 416 => some "Range Not Satisfiable"
  | 417 => some "Expectation Failed"
  | 418 => some "I'm a teapot"
  | 421 => some "Misdirected Request"
  | 422 => some "Unprocessable Entity"
  | 423 => some "Locked"
  | 424 => some "Failed Dependency"
  | 426 => some "Upgrade Required"
  | 428 => some "Precondition Required"
  | 429 => some "Too Many Requests"
  | 431 => some "Request Header Fields Too Large"
  | 451 => some "Unavailable For Legal Reasons"
  | 500 => some "Internal Server Error"
  | 501 => some "Not Implemented"
  | 502 => some "Bad Gateway"
  | 503 => some "Service Unavailable"
  | 504 => some "Gateway Timeout"
  | 505 => some "HTTP Version Not Supported"
  | 506 => some "Variant Also Negotiates"
  | 507 => some "Insufficient Storage"
  | 508 => some "Loop Detected"
  | 510 => some "Not Extended"
  | 511 => some "Network Authentication Required"
  | _ => none

/-- The number of a status with its reason. -/
def text (status : Nat) : String :=
  status.repr ++ " " ++ (reason? status).getD "<unknown status code>"

/-- Whether the status says that the request succeeded. -/
def isSuccess (status : Nat) : Bool := 200 ≤ status && status ≤ 299

end Status

/-- A response. Scripts of any other site may read it. -/
structure Response where
  status : Nat
  contentType : Option String := none
  /-- The methods that the path of the request knows. -/
  allow : Option String := none
  /-- Whether scripts of other sites are told which requests they may make. -/
  preflight : Bool := false
  body : String := ""
  deriving DecidableEq, Repr

namespace Response

/-- The sites whose scripts may read the response. -/
def allowedOrigins (_ : Response) : String := "*"

/-- The methods and headers that scripts of other sites may use. -/
def allowedUse (r : Response) : Option String := if r.preflight then some "*" else none

end Response

end ReplicatedCache.Http
