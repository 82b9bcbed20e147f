import ImportDispatch.Engine.Reply
/-!
# Failures of the engine

Why the engine did not start a job, from a request that could not be sent to an answer that cannot be read.  The text
of an answer is kept: it is often all there is to find the reason with.
-/
namespace ImportDispatch

/-! ## Status codes -/

def statusPhrase? : Nat → Option String
  | 100 => "Continue"
  | 101 => "Switching Protocols"
  | 102 => "Processing"
  | 103 => "Early Hints"
  | 200 => "OK"
  | 201 => "Created"
  | 202 => "Accepted"
  | 203 => "Non Authoritative Information"
  | 204 => "No Content"
  | 205 => "Reset Content"
  | 206 => "Partial Content"
  | 207 => "Multi-Status"
  | 208 => "Already Reported"
  | 226 => "IM Used"
  | 300 => "Multiple Choices"
  | 301 => "Moved Permanently"
  | 302 => "Found"
  | 303 => "See Other"
  | 304 => "Not Modified"
  | 305 => "Use Proxy"
  | 307 => "Temporary Redirect"
  | 308 => "Permanent Redirect"
  | 400 => "Bad Request"
  | 401 => "Unauthorized"
  | 402 => "Payment Required"
  | 403 => "Forbidden"
  | 404 => "Not Found"
  | 405 => "Method Not Allowed"
  | 406 => "Not Acceptable"
  | 407 => "Proxy Authentication Required"
  | 408 => "Request Timeout"
  | 409 => "Conflict"
  | 410 => "Gone"
  | 411 => "Length Required"
  | 412 => "Precondition Failed"
  | 413 => "Payload Too Large"
  | 414 => "URI Too Long"
  | 415 => "Unsupported Media Type"
  | 416 => "Range Not Satisfiable"
  | 417 => "Expectation Failed"
  | 418 => "I'm a teapot"
  | 421 => "Misdirected Request"
  | 422 => "Unprocessable Entity"
  | 423 => "Locked"
  | 424 => "Failed Dependency"
  | 425 => "Too Early"
  | 426 => "Upgrade Required"
  | 428 => "Precondition Required"
  | 429 => "Too Many Requests"
  | 431 => "Request Header Fields Too Large"
  | 451 => "Unavailable For Legal Reasons"
  | 500 => "Internal Server Error"
  | 501 => "Not Implemented"
  | 502 => "Bad Gateway"
  | 503 => "Service Unavailable"
  | 504 => "Gateway Timeout"
  | 505 => "HTTP Version Not Supported"
  | 506 => "Variant Also Negotiates"
  | 507 => "Insufficient Storage"
  | 508 => "Loop Detected"
  | 510 => "Not Extended"
  | 511 => "Network Authentication Required"
  | _ => none

def statusText (status : Nat) : Text :=
  Decimal.ofNat status ++ ' ' :: ((statusPhrase? status).getD "<unknown status code>").toList

/-! ## Failures -/

/-- Why the engine did not start a job. -/
inductive EngineFailure
  /-- It takes no more submissions. -/
  | closed
  /-- The address of the engine names no host. -/
  | relativeAddress
  /-- Nobody answers at the address. -/
  | noAnswer (address : Text)
  /-- It answered that it will not. -/
  | rejected (status : Nat) (body : Text)
  /-- It answered with something else than an id. -/
  | unexpectedReply (body : Text) (fault : ReplyFault)
deriving DecidableEq, Repr

/-- A request that was not answered. -/
def requestFailedText (cause : Text) : Text := "Oozie request failed: ".toList ++ cause

def EngineFailure.message : EngineFailure → Text
  | closed => "engine is down".toList
  | relativeAddress => requestFailedText "builder error: relative URL without a base".toList
  | noAnswer address => requestFailedText ("error sending request for url (".toList ++ address ++ [')'])
  | rejected status body => "Oozie rejected job (status ".toList ++ statusText status ++ "): ".toList ++ body
  | unexpectedReply body fault =>
    "Unexpected Oozie response '".toList ++ body ++ "': ".toList ++ fault.message

end ImportDispatch
