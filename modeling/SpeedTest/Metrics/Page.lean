import SpeedTest.Http.Body
import SpeedTest.Http.Target
import SpeedTest.Metrics.Histogram
import SpeedTest.Text.Utf8

/-!
The pages on which metrics are offered: the metrics themselves and a sign of life. The method of a
request does not matter, and neither does its query.
-/

namespace SpeedTest.Metrics

/-- How a request went. -/
inductive Status where
  | ok
  | badRequest
  | notFound
  | uriTooLong
  | fieldsTooLarge
deriving Repr, DecidableEq

def Status.phrase : Status → String
  | ok => "200 OK"
  | badRequest => "400 Bad Request"
  | notFound => "404 Not Found"
  | uriTooLong => "414 URI Too Long"
  | fieldsTooLarge => "431 Request Header Fields Too Large"

/-- An answer to a request. -/
structure Page where
  status : Status
  /-- The media type, where the answer names one. -/
  mediaType : Option String
  body : String
deriving Repr, DecidableEq

/-- The media type of the text that holds the metrics. -/
def textType : String := "text/plain; version=0.0.4"

/-- The page with the given path. -/
def page (r : Registry) (path : Bytes) : Page :=
  if path = Bytes.ofAscii "/metrics" then ⟨.ok, some textType, r.render⟩
  else if path = Bytes.ofAscii "/health" then ⟨.ok, none, "OK"⟩
  else ⟨.notFound, none, "Not Found"⟩

/-- An answer that says only how the request went. -/
def bare (status : Status) : Page := ⟨status, none, ""⟩

/-- An answer and the version of HTTP in which it is given. -/
structure Reply where
  version : Http.Version
  page : Page
deriving Repr, DecidableEq

/-- The status line of an answer. -/
def Reply.statusLine (r : Reply) : String := r.version.name ++ " " ++ r.page.status.phrase

/-- A reply on the wire, behind which the connection is closed. -/
def Reply.render (r : Reply) : Bytes :=
  let body := r.page.body.toUTF8.toList
  let field (name value : String) : String := name ++ ": " ++ value ++ "\r\n"
  Bytes.ofAscii (r.statusLine ++ "\r\n"
    ++ (match r.page.mediaType with
      | none => ""
      | some t => field "content-type" t)
    ++ field "content-length" (toString body.length) ++ field "connection" "close" ++ "\r\n")
    ++ body

/-- The most header fields of a request. -/
def maxFields : Nat := 100

/-- The most bytes in which a request must have told its head. -/
def maxHeadLength : Nat := 417792

/-- The shortest name of a field that is too long. -/
def excessiveName : Nat := 65536

/-- Whether the answer to a request of the given method goes without its body: a body is neither for
those who ask for a head alone nor for those who open a passage. -/
def goesBare (method : Bytes) (status : Status) : Bool :=
  method = Bytes.ofAscii "HEAD" || (method = Bytes.ofAscii "CONNECT" && status = .ok)

/-- The reply to a request whose head has no faults, for the given path. -/
def replyTo (r : Registry) (h : Http.Head) (path : Bytes) : Reply :=
  let p := page r path
  ⟨h.version, if goesBare h.method p.status then { p with body := "" } else p⟩

/-- How a client begins that speaks the second version of the protocol. -/
def preface : Bytes := Bytes.ofAscii "PRI * HTTP/2.0\r\n\r\nSM\r\n\r\n"

/-- The reply to a request with a fault. There is none for a client that speaks the second version
of the protocol in what was not taken in before the fault was found. -/
def refuse (status : Status) (unread : Bytes) : Option Reply :=
  if Bytes.startsWith preface (unread.dropWhile fun b => b = 0x0D || b = 0x0A) then none
  else some ⟨.http11, bare status⟩

/-- The reply to what a client has sent. There is none to half a request. -/
def reply? (r : Registry) (sent : Bytes) : Option Reply :=
  match Http.Head.read? maxFields (fun t => (Utf8.decodeChars? t).isSome) sent with
  | .error .tooManyFields => refuse .fieldsTooLarge sent
  | .error _ => refuse .badRequest sent
  | .ok none => if maxHeadLength ≤ sent.length then refuse .fieldsTooLarge sent else none
  | .ok (some (h, behind)) =>
    match Http.Target.path h.target with
    | .error .tooLong => refuse .uriTooLong sent
    | path =>
      if h.fields.any fun f => excessiveName ≤ f.name.length then refuse .fieldsTooLarge sent
      else
        match path, Http.Body.fault? h with
        | .error _, _ | _, some .malformed => refuse .badRequest behind
        | _, some .tooLong => refuse .fieldsTooLarge behind
        | .ok path, none => some (replyTo r h path)

end SpeedTest.Metrics
