import StubConsole.Text.Integer

/-!
# Reply — what a server sends back

* `Reply` — status, headers and body of an answer;
* `Exchange` — an answer, or why none came;
* `reasonPhrase?` — the words that go with a status code.
-/

namespace StubConsole

/-- The body is missing if it broke off while it was read; the text says why. -/
structure Reply where
  status : Nat
  headers : List (String × String)
  body : Except String String

/-- How a request ends: with an answer, or with a reason why none came. -/
abbrev Exchange := Except String Reply

namespace Reply

def isSuccess (r : Reply) : Bool := 200 ≤ r.status && r.status < 300

/-- A byte order mark at the start of a body is no part of its text. -/
def withoutMark (s : List Char) : List Char :=
  match s with
  | [] => []
  | c :: rest => if c.toNat = 0xFEFF then rest else c :: rest

/-- The text of the body, or why it broke off. -/
def text (r : Reply) : Except String String :=
  r.body.map fun body => String.ofList (withoutMark body.toList)

end Reply

/-- The words for the status codes that are in use. -/
def reasonPhrases : List (Nat × String) :=
  [(100, "Continue"), (101, "Switching Protocols"), (102, "Processing"),
   (200, "OK"), (201, "Created"), (202, "Accepted"), (203, "Non Authoritative Information"),
   (204, "No Content"), (205, "Reset Content"), (206, "Partial Content"), (207, "Multi-Status"),
   (208, "Already Reported"), (226, "IM Used"),
   (300, "Multiple Choices"), (301, "Moved Permanently"), (302, "Found"), (303, "See Other"),
   (304, "Not Modified"), (305, "Use Proxy"), (307, "Temporary Redirect"),
   (308, "Permanent Redirect"),
   (400, "Bad Request"), (401, "Unauthorized"), (402, "Payment Required"), (403, "Forbidden"),
   (404, "Not Found"), (405, "Method Not Allowed"), (406, "Not Acceptable"),
   (407, "Proxy Authentication Required"), (408, "Request Timeout"), (409, "Conflict"),
   (410, "Gone"), (411, "Length Required"), (412, "Precondition Failed"),
   (413, "Payload Too Large"), (414, "URI Too Long"), (415, "Unsupported Media Type"),
   (416, "Range Not Satisfiable"), (417, "Expectation Failed"), (418, "I\x27m a teapot"),
   (421, "Misdirected Request"), (422, "Unprocessable Entity"), (423, "Locked"),
   (424, "Failed Dependency"), (425, "Too Early"), (426, "Upgrade Required"),
   (428, "Precondition Required"), (429, "Too Many Requests"),
   (431, "Request Header Fields Too Large"), (451, "Unavailable For Legal Reasons"),
   (500, "Internal Server Error"), (501, "Not Implemented"), (502, "Bad Gateway"),
   (503, "Service Unavailable"), (504, "Gateway Timeout"), (505, "HTTP Version Not Supported"),
   (506, "Variant Also Negotiates"), (507, "Insufficient Storage"), (508, "Loop Detected"),
   (510, "Not Extended"), (511, "Network Authentication Required")]

def reasonPhrase? (status : Nat) : Option String := reasonPhrases.lookup status

end StubConsole
