import BrowserFlow.Failure
import BrowserFlow.Json.Bytes
import BrowserFlow.Json.Printer

/-!
# Running scripts elsewhere

A remote runner is sent a script as a value in bytes, which a script with halves of
pairs does not have, and replies with a value. Any status but one of success is a
failure, and so is a reply that is no value.
-/

namespace BrowserFlow.Service

namespace RunnerRequest

def sentChar (c : Char) : List Char :=
  if c = '\x22' ∨ c = '\\' ∨ c.toNat < 0x20 then Json.escapeChar c else [c]

def text (script : String) : List Char :=
  "\x7b\x22script\x22:\x22".toList ++ script.toList.flatMap sentChar ++ "\x22\x7d".toList

def check (script : String) : Except Failure Unit :=
  match Text.Utf8.unwritable? (text script) with
  | none => .ok ()
  | some u => .error (.raised ⟨.other "UnicodeEncodeError", some u.message⟩)

end RunnerRequest

structure RunnerReply where
  status : Int
  bytes : List UInt8

/-- The limits on what a runner replies. It is read in the middle of serving a request. -/
def replyLimits : Json.Limits := { depth := some 953, digits := some 4300 }

namespace RunnerReply

def phrases : List (Int × String) := [
  (100, "Continue"), (101, "Switching Protocols"), (102, "Processing"), (103, "Early Hints"),
  (200, "OK"), (201, "Created"), (202, "Accepted"), (203, "Non-Authoritative Information"),
  (204, "No Content"), (205, "Reset Content"), (206, "Partial Content"), (207, "Multi-Status"),
  (208, "Already Reported"), (226, "IM Used"),
  (300, "Multiple Choices"), (301, "Moved Permanently"), (302, "Found"), (303, "See Other"),
  (304, "Not Modified"), (305, "Use Proxy"), (307, "Temporary Redirect"),
  (308, "Permanent Redirect"),
  (400, "Bad Request"), (401, "Unauthorized"), (402, "Payment Required"), (403, "Forbidden"),
  (404, "Not Found"), (405, "Method Not Allowed"), (406, "Not Acceptable"),
  (407, "Proxy Authentication Required"), (408, "Request Timeout"), (409, "Conflict"),
  (410, "Gone"), (411, "Length Required"), (412, "Precondition Failed"),
  (413, "Request Entity Too Large"), (414, "Request-URI Too Long"),
  (415, "Unsupported Media Type"), (416, "Requested Range Not Satisfiable"),
  (417, "Expectation Failed"), (418, "I'm a teapot"), (421, "Misdirected Request"),
  (422, "Unprocessable Entity"), (423, "Locked"), (424, "Failed Dependency"), (425, "Too Early"),
  (426, "Upgrade Required"), (428, "Precondition Required"), (429, "Too Many Requests"),
  (431, "Request Header Fields Too Large"), (451, "Unavailable For Legal Reasons"),
  (500, "Internal Server Error"), (501, "Not Implemented"), (502, "Bad Gateway"),
  (503, "Service Unavailable"), (504, "Gateway Timeout"), (505, "HTTP Version Not Supported"),
  (506, "Variant Also Negotiates"), (507, "Insufficient Storage"), (508, "Loop Detected"),
  (510, "Not Extended"), (511, "Network Authentication Required")]

/-- The phrase for a status, empty for one that has none. -/
def phrase (status : Int) : String :=
  ((phrases.find? fun entry => entry.1 = status).map Prod.snd).getD ""

def className (status : Int) : String :=
  match status / 100 with
  | 1 => "Informational response"
  | 3 => "Redirect response"
  | 4 => "Client error"
  | 5 => "Server error"
  | _ => "Invalid status code"

def guide : String :=
  "/".intercalate ["https:", "", "developer.mozilla.org", "en-US", "docs", "Web", "HTTP", "Status"]

def statusMessage (url : String) (status : Int) : String :=
  s!"{className status} '{status} {phrase status}' for url '{url}'\n"
    ++ s!"For more information check: {guide}/{status}"

def isSuccess (reply : RunnerReply) : Bool := reply.status / 100 = 2

def refusalRaised : Json.BytesRefusal → Raised
  | .undecodable fault => ⟨.other "UnicodeDecodeError", some fault.message⟩
  | .refused refusal => ⟨refusal.kind, some refusal.message⟩

def value (limits : Json.Limits) (url : String) (reply : RunnerReply) : Except Failure Json :=
  if reply.isSuccess then
    (Json.readBytes limits reply.bytes).mapError fun refusal => .raised (refusalRaised refusal)
  else .error (.raised ⟨.other "HTTPStatusError", some (statusMessage url reply.status)⟩)

end RunnerReply

end BrowserFlow.Service
