import CloudApi.Error
import CloudApi.Text.Numeral

/-! Status codes of responses, and the errors they stand for. -/
namespace CloudApi.Http

open Text

/-- What registered codes are called. -/
def reasons : List (Nat × String) :=
  [(100, "Continue"), (101, "Switching Protocols"), (102, "Processing"), (103, "Early Hints"),
    (200, "OK"), (201, "Created"), (202, "Accepted"), (203, "Non Authoritative Information"),
    (204, "No Content"), (205, "Reset Content"), (206, "Partial Content"), (207, "Multi-Status"),
    (208, "Already Reported"), (226, "IM Used"), (300, "Multiple Choices"),
    (301, "Moved Permanently"), (302, "Found"), (303, "See Other"), (304, "Not Modified"),
    (305, "Use Proxy"), (307, "Temporary Redirect"), (308, "Permanent Redirect"),
    (400, "Bad Request"), (401, "Unauthorized"), (402, "Payment Required"), (403, "Forbidden"),
    (404, "Not Found"), (405, "Method Not Allowed"), (406, "Not Acceptable"),
    (407, "Proxy Authentication Required"), (408, "Request Timeout"), (409, "Conflict"),
    (410, "Gone"), (411, "Length Required"), (412, "Precondition Failed"),
    (413, "Payload Too Large"), (414, "URI Too Long"), (415, "Unsupported Media Type"),
    (416, "Range Not Satisfiable"), (417, "Expectation Failed"), (418, "I'm a teapot"),
    (421, "Misdirected Request"), (422, "Unprocessable Entity"), (423, "Locked"),
    (424, "Failed Dependency"), (425, "Too Early"), (426, "Upgrade Required"),
    (428, "Precondition Required"), (429, "Too Many Requests"),
    (431, "Request Header Fields Too Large"), (451, "Unavailable For Legal Reasons"),
    (500, "Internal Server Error"), (501, "Not Implemented"), (502, "Bad Gateway"),
    (503, "Service Unavailable"), (504, "Gateway Timeout"), (505, "HTTP Version Not Supported"),
    (506, "Variant Also Negotiates"), (507, "Insufficient Storage"), (508, "Loop Detected"),
    (510, "Not Extended"), (511, "Network Authentication Required")]

/-- A code with its name. -/
def statusText (status : Nat) : String :=
  Numeral.decimalText status ++ " " ++ (reasons.lookup status).getD "<unknown status code>"

def isSuccess (status : Nat) : Bool :=
  200 ≤ status && status < 300

/-- The error of a response that is no success, with the text of its body. -/
def statusError (status : Nat) (text : String) : Error :=
  if status = 404 then .notFound text
  else if status = 401 ∨ status = 403 then .invalidRequest ("Authentication failed: " ++ text)
  else if status = 409 then .conflict text
  else if status = 400 ∨ status = 422 then .badRequest text
  else if status = 429 ∨ status = 502 ∨ status = 503 ∨ status = 504 then
    .serviceUnavailable ("API temporarily unavailable: " ++ text)
  else if 500 ≤ status ∧ status < 600 then
    .serviceUnavailable ("API server error " ++ statusText status ++ ": " ++ text)
  else .http ("API error " ++ statusText status ++ ": " ++ text)

end CloudApi.Http
