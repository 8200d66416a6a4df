import ClusterPackages.Http.Message
import ClusterPackages.Text.Blank
import ClusterPackages.Text.Digit

namespace ClusterPackages.Http

open Text

/-!
# Requests and replies as bytes

A connection carries one request and its reply, and ends with the reply.

* `Request.server?` — the server that a request goes to; connections are made without encryption.
* `Request.toBytes` — the request as it is sent.
* `Reply.ofBytes?` — the reply in all that was received.  Its body comes in chunks, or its length
  is told, or it reaches to the end.
-/

/-! ### What is sent -/

namespace Request

/-- The name and the port of the server that a request goes to. -/
def server? (r : Request) : Option (String × Nat) :=
  if r.url.scheme = "http" then
    r.url.host.map fun host => (host.bare, r.url.port.getD 80)
  else none

/-- The host, as a request names it. -/
def hostField (u : Url) : String :=
  (u.host.map Url.Host.toText).getD ""
    ++ (match u.port with
      | some port => ":" ++ toString port
      | none => "")

/-- Whether the length of the body is told. -/
def tellsLength (r : Request) : Bool :=
  !r.payload.body.isEmpty || r.method == .put || r.method == .post

/-- The header fields of a request. -/
def fields (r : Request) : List (String × String) :=
  [("host", hostField r.url), ("accept", r.accept), ("connection", "close")]
    ++ (r.authorization.map fun value => ("authorization", value)).toList
    ++ (r.payload.contentType.map fun value => ("content-type", value)).toList
    ++ (if r.tellsLength then [("content-length", toString r.payload.body.length)] else [])

/-- What ends a line. -/
def lineEnd : String := "\x0d\x0a"

/-- The header of a request: its line and its fields, with a blank line after them. -/
def header (r : Request) : String :=
  r.line ++ " HTTP/1.1" ++ lineEnd
    ++ concat (r.fields.map fun (name, value) => name ++ ": " ++ value ++ lineEnd) ++ lineEnd

/-- The request as it is sent. -/
def toBytes (r : Request) : Bytes := Utf8.encode r.header ++ r.payload.body

end Request

/-! ### What is received -/

/-- What stands before the first occurrence of `mark`, and what stands after it. -/
def cutAround? (mark : Bytes) : Bytes → Option (Bytes × Bytes)
  | [] => none
  | b :: rest =>
    if mark.isPrefixOf (b :: rest) then some ([], (b :: rest).drop mark.length)
    else (cutAround? mark rest).map fun (before, after) => (b :: before, after)

/-- The bytes that end a line. -/
def lineMark : Bytes := [0x0D, 0x0A]

/-- The number of bytes in a chunk, from the line before it; what follows a semicolon says nothing
    about the number. -/
def chunkSize? (line : Bytes) : Option Nat :=
  match trimChars ((Utf8.lossy line).toList.takeWhile (· != ';')) with
  | [] => none
  | digits => number? 16 digits

/-- The body in at most `most` chunks, the last of which is empty. -/
def chunks? : (most : Nat) → Bytes → Option Bytes
  | 0, _ => none
  | most + 1, bytes => do
    let (line, rest) ← cutAround? lineMark bytes
    let size ← chunkSize? line
    if size = 0 then some []
    else if lineMark.isPrefixOf (rest.drop size) then
      (chunks? most (rest.drop (size + lineMark.length))).map (rest.take size ++ ·)
    else none

/-- The name and the value of a header field. -/
def field? (line : String) : Option (String × String) :=
  match line.toList.dropWhile (· != ':') with
  | [] => none
  | _ :: value =>
    some (asciiLower (String.ofList (line.toList.takeWhile (· != ':'))),
      String.ofList (trimChars value))

/-- The status in the first line of a header. -/
def status? (line : String) : Option Nat :=
  match words line with
  | version :: status :: _ =>
    if startsWith "HTTP/1." version && status.length = 3 then number? 10 status.toList else none
  | _ => none

/-- The body of a reply, from all that follows its header. -/
def body? (fields : List (String × String)) (rest : Bytes) : Option Bytes :=
  if (fields.lookup "transfer-encoding").any (sameIgnoringCase "chunked") then
    chunks? rest.length rest
  else
    match fields.lookup "content-length" with
    | none => some rest
    | some text => do
      let length ← number? 10 text.toList
      if length ≤ rest.length then some (rest.take length) else none

/-- The reply in all that was received. -/
def Reply.ofBytes? (bytes : Bytes) : Option Reply := do
  let (header, rest) ← cutAround? (lineMark ++ lineMark) bytes
  match (segments '\n' (Utf8.lossy header)).map (dropTrailing '\x0d') with
  | [] => none
  | first :: lines => do
    let status ← status? first
    let body ← body? (lines.filterMap field?) rest
    some ⟨status, body⟩

end ClusterPackages.Http
