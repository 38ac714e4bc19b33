/-
Module: NodeSync.Http.Status
Purpose: The status codes of HTTP answers and their names.
Main exports: Status, Status.isFailure, Status.text
-/
import NodeSync.Text.Numeral

namespace NodeSync.Http

open NodeSync.Text

set_option autoImplicit false

/-- A status code: a number of three digits. -/
structure Status where
  code : Nat
  three_digits : 100 ≤ code ∧ code < 1000
deriving Repr, DecidableEq

namespace Status

/-- The status with a given code. -/
def ofCode? (code : Nat) : Option Status :=
  if h : 100 ≤ code ∧ code < 1000 then some ⟨code, h⟩ else none

/-- Whether the request failed, by a fault of the client or of the server. -/
def isFailure (status : Status) : Bool := 400 ≤ status.code && status.code < 600

/-- The names of the codes that say that a request failed. -/
def failureNames : List (Nat × String) :=
  [(400, "Bad Request"), (401, "Unauthorized"), (402, "Payment Required"), (403, "Forbidden"),
    (404, "Not Found"), (405, "Method Not Allowed"), (406, "Not Acceptable"),
    (407, "Proxy Authentication Required"), (408, "Request Timeout"), (409, "Conflict"),
    (410, "Gone"), (411, "Length Required"), (412, "Precondition Failed"),
    (413, "Payload Too Large"), (414, "URI Too Long"), (415, "Unsupported Media Type"),
    (416, "Range Not Satisfiable"), (417, "Expectation Failed"), (418, "I'm a teapot"),
    (421, "Misdirected Request"), (422, "Unprocessable Entity"), (423, "Locked"),
    (424, "Failed Dependency"), (425, "Too Early"), (426, "Upgrade Required"),
    (428, "Precondition Required"), (429, "Too Many Requests"),
    (431, "Request Header Fields Too Large"), (451, "Unavailable For Legal Reasons"),
    (500, "Internal Server Error"), (501, "Not Implemented"), (502, "Bad Gateway"),
    (503, "Service Unavailable"), (504, "Gateway Timeout"), (505, "HTTP Version Not Supported"),
    (506, "Variant Also Negotiates"), (507, "Insufficient Storage"), (508, "Loop Detected"),
    (510, "Not Extended"), (511, "Network Authentication Required")]

/-- The code of a failure with its name. -/
def text (status : Status) : String :=
  decimal status.code ++ " " ++ (failureNames.lookup status.code).getD "<unknown status code>"

end Status

end NodeSync.Http
