import ApiCompiler.Json.Value
import ApiCompiler.MediaType
import ApiCompiler.Text.Charset

/-!
# Replies

The reply to a request for a document: a status, the type of the content and the content.  Only a
status from 200 to 299 brings a document; any other one is a failure, named by its class.  The
content is sent as UTF-8 and read by the character set that its type names, if it is a known one.
-/

namespace ApiCompiler

/-- The answer to a request for a document. -/
structure Reply where
  status : Nat
  contentType : String
  body : String

namespace Reply

/-- The phrases of the statuses. -/
def phrases : List (Nat × String) :=
  [(100, "Continue"), (101, "Switching Protocols"), (102, "Processing"), (103, "Early Hints"),
    (200, "OK"), (201, "Created"), (202, "Accepted"), (203, "Non-Authoritative Information"),
    (204, "No Content"), (205, "Reset Content"), (206, "Partial Content"), (207, "Multi-Status"),
    (208, "Already Reported"), (226, "IM Used"), (300, "Multiple Choices"),
    (301, "Moved Permanently"), (302, "Found"), (303, "See Other"), (304, "Not Modified"),
    (305, "Use Proxy"), (307, "Temporary Redirect"), (308, "Permanent Redirect"),
    (400, "Bad Request"), (401, "Unauthorized"), (402, "Payment Required"), (403, "Forbidden"),
    (404, "Not Found"), (405, "Method Not Allowed"), (406, "Not Acceptable"),
    (407, "Proxy Authentication Required"), (408, "Request Timeout"), (409, "Conflict"),
    (410, "Gone"), (411, "Length Required"), (412, "Precondition Failed"),
    (413, "Request Entity Too Large"), (414, "Request-URI Too Long"),
    (415, "Unsupported Media Type"), (416, "Requested Range Not Satisfiable"),
    (417, "Expectation Failed"), (418, "I'm a teapot"), (421, "Misdirected Request"),
    (422, "Unprocessable Entity"), (423, "Locked"), (424, "Failed Dependency"),
    (425, "Too Early"), (426, "Upgrade Required"), (428, "Precondition Required"),
    (429, "Too Many Requests"), (431, "Request Header Fields Too Large"),
    (451, "Unavailable For Legal Reasons"), (500, "Internal Server Error"),
    (501, "Not Implemented"), (502, "Bad Gateway"), (503, "Service Unavailable"),
    (504, "Gateway Timeout"), (505, "HTTP Version Not Supported"),
    (506, "Variant Also Negotiates"), (507, "Insufficient Storage"), (508, "Loop Detected"),
    (510, "Not Extended"), (511, "Network Authentication Required")]

/-- The phrase of a status. -/
def phrase (status : Nat) : String := (lookup? status phrases).getD ""

/-- The class of a status that brings no document. -/
def statusClass (status : Nat) : String :=
  match status / 100 with
  | 1 => "Informational response"
  | 3 => "Redirect response"
  | 4 => "Client error"
  | 5 => "Server error"
  | _ => "Invalid status code"

/-- Whether a reply brings a document. -/
def isSuccess (r : Reply) : Bool := r.status / 100 = 2

/-- The content as it is read. -/
def text (r : Reply) : Except String String :=
  (((MediaType.charset? r.contentType).bind Charset.named?).getD (.utf8 false)).decode r.body

/-- Where statuses are explained. -/
def explanations : String := "https://developer.mozilla.org/en-US/docs/Web/HTTP/Status/"

/-- The wording of a failure. -/
def failure (r : Reply) (address : String) : String :=
  s!"{statusClass r.status} '{r.status} {phrase r.status}' for url '{address}'\n" ++
    s!"For more information check: {explanations}{r.status}"

end Reply
end ApiCompiler
