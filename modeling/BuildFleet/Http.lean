/-!
# HTTP exchanges

What a program sends to an HTTP server and what it can get back: no answer at all, or a status with
a body, which may break off.
-/
namespace BuildFleet.Http

def reasons : List (Nat × String) := [
  (100, "Continue"), (101, "Switching Protocols"), (102, "Processing"),
  (200, "OK"), (201, "Created"), (202, "Accepted"), (203, "Non Authoritative Information"),
  (204, "No Content"), (205, "Reset Content"), (206, "Partial Content"), (207, "Multi-Status"),
  (208, "Already Reported"), (226, "IM Used"),
  (300, "Multiple Choices"), (301, "Moved Permanently"), (302, "Found"), (303, "See Other"),
  (304, "Not Modified"), (305, "Use Proxy"), (307, "Temporary Redirect"),
  (308, "Permanent Redirect"),
  (400, "Bad Request"), (401, "Unauthorized"), (402, "Payment Required"), (403, "Forbidden"),
  (404, "Not Found"), (405, "Method Not Allowed"), (406, "Not Acceptable"),
  (407, "Proxy Authentication Required"), (408, "Request Timeout"), (409, "Conflict"),
  (410, "Gone"), (411, "Length Required"), (412, "Precondition Failed"),
  (413, "Payload Too Large"), (414, "URI Too Long"), (415, "Unsupported Media Type"),
  (416, "Range Not Satisfiable"), (417, "Expectation Failed"), (418, "I'm a teapot"),
  (421, "Misdirected Request"), (422, "Unprocessable Entity"), (423, "Locked"),
  (424, "Failed Dependency"), (426, "Upgrade Required"), (428, "Precondition Required"),
  (429, "Too Many Requests"), (431, "Request Header Fields Too Large"),
  (451, "Unavailable For Legal Reasons"),
  (500, "Internal Server Error"), (501, "Not Implemented"), (502, "Bad Gateway"),
  (503, "Service Unavailable"), (504, "Gateway Timeout"), (505, "HTTP Version Not Supported"),
  (506, "Variant Also Negotiates"), (507, "Insufficient Storage"), (508, "Loop Detected"),
  (510, "Not Extended"), (511, "Network Authentication Required")]

def statusText (code : Nat) : String :=
  toString code ++ " " ++ (reasons.lookup code).getD "<unknown status code>"

inductive Answer where
  | failed (cause : String)
  /-- A status and a body. The body breaks off where `brokenOff` says why. -/
  | response (status : Nat) (body : List UInt8) (brokenOff : Option String)

/-- Characters of a scheme after its first letter. -/
def isSchemeChar (c : Char) : Bool := c.isAlphanum || c = '+' || c = '-' || c = '.'

/-- The scheme of a URL in small letters; none where the URL is relative. -/
def scheme? (url : String) : Option String :=
  match url.toList.takeWhile isSchemeChar, url.toList.dropWhile isSchemeChar with
  | c :: rest, ':' :: _ =>
    if c.isAlpha then some (String.ofList ((c :: rest).map Char.toLower)) else none
  | _, _ => none

/-- The answer where nothing can be reached. Only `http` and `https` are tried at all. -/
def Answer.unreachable (url : String) : Answer :=
  match scheme? url with
  | none => .failed "builder error: relative URL without a base"
  | some scheme =>
    if scheme = "http" ∨ scheme = "https" then
      .failed ("error sending request for url (" ++ url ++
        "): error trying to connect: tcp connect error: Network is unreachable (os error 101)")
    else .failed ("builder error for url (" ++ url ++ "): URL scheme is not allowed")

def isSuccess (status : Nat) : Bool := 200 ≤ status && status < 300

end BuildFleet.Http
