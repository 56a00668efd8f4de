import AskLedger.Text.Find
import AskLedger.Web.Url

/-!
# Requests and responses

What is sent to a host and what comes back. The value of a header may hold any characters but
control characters, of which only the tab may occur. A response is a success if its status is from
200 to 299; some statuses never come with a body.
-/

namespace AskLedger.Web

/-- A request that posts a body. -/
structure Request where
  /-- Where it goes. -/
  url : Url
  /-- The names of the headers, in lower case, with their values. -/
  headers : List (String × String)
  /-- What is posted. -/
  body : String

/-- A response. -/
structure Response where
  /-- The status. -/
  status : Nat
  /-- The body. -/
  body : String
  deriving DecidableEq, Repr

/-- Whether a text can be the value of a header. -/
def isHeaderValue (s : String) : Bool :=
  s.toList.all fun c => c == '\t' || (32 ≤ c.toNat && c.toNat != 127)

/-- The value of a header. -/
def Request.header? (r : Request) (name : String) : Option String := r.headers.lookup name

namespace Response

/-- Whether a request has succeeded. -/
def isSuccess (r : Response) : Bool := 200 ≤ r.status && r.status < 300

end Response

/-- The usual reasons of statuses. -/
def reasons : List (Nat × String) :=
  [(100, "Continue"), (101, "Switching Protocols"), (102, "Processing"), (200, "OK"),
    (201, "Created"), (202, "Accepted"), (203, "Non Authoritative Information"),
    (204, "No Content"), (205, "Reset Content"), (206, "Partial Content"), (207, "Multi-Status"),
    (208, "Already Reported"), (226, "IM Used"), (300, "Multiple Choices"),
    (301, "Moved Permanently"), (302, "Found"), (303, "See Other"), (304, "Not Modified"),
    (305, "Use Proxy"), (307, "Temporary Redirect"), (308, "Permanent Redirect"),
    (400, "Bad Request"), (401, "Unauthorized"), (402, "Payment Required"), (403, "Forbidden"),
    (404, "Not Found"), (405, "Method Not Allowed"), (406, "Not Acceptable"),
    (407, "Proxy Authentication Required"), (408, "Request Timeout"), (409, "Conflict"),
    (410, "Gone"), (411, "Length Required"), (412, "Precondition Failed"),
    (413, "Payload Too Large"), (414, "URI Too Long"), (415, "Unsupported Media Type"),
    (416, "Range Not Satisfiable"), (417, "Expectation Failed"), (418, "I'm a teapot"),
    (421, "Misdirected Request"), (422, "Unprocessable Entity"), (423, "Locked"),
    (424, "Failed Dependency"), (425, "Too Early"), (426, "Upgrade Required"),
    (428, "Precondition Required"), (429, "Too Many Requests"),
    (431, "Request Header Fields Too Large"), (451, "Unavailable For Legal Reasons"),
    (500, "Internal Server Error"), (501, "Not Implemented"), (502, "Bad Gateway"),
    (503, "Service Unavailable"), (504, "Gateway Timeout"), (505, "HTTP Version Not Supported"),
    (506, "Variant Also Negotiates"), (507, "Insufficient Storage"), (508, "Loop Detected"),
    (510, "Not Extended"), (511, "Network Authentication Required")]

/-- A status with its reason. -/
def statusLine (status : Nat) : String :=
  toString status ++ " " ++ ((reasons.lookup status).getD "<unknown status code>")

end AskLedger.Web
