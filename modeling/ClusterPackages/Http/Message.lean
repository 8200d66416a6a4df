import ClusterPackages.Action
import ClusterPackages.Text.Base64
import ClusterPackages.Url.Service

namespace ClusterPackages.Http

open Text

/-!
# Requests and replies

* `Request`, `Reply` — what goes to a server and what comes back.
* `Transport` — a way to have requests answered; a request may stay without an answer.
* `Request.ofUrl` — a request to a URL.  A user who stands in the URL is named in the header
  instead.
-/

/-- What a request is for. -/
inductive Method where
  /-- To read something. -/
  | get
  /-- To set something. -/
  | put
  /-- To submit something. -/
  | post
  /-- To remove something. -/
  | delete
deriving DecidableEq, Repr

/-- The name of a method. -/
def Method.name : Method → String
  | get => "GET"
  | put => "PUT"
  | post => "POST"
  | delete => "DELETE"

/-- What is sent along with a request. -/
structure Payload where
  /-- The form of the bytes, if it is named. -/
  contentType : Option String
  /-- The bytes. -/
  body : Bytes
deriving DecidableEq, Repr

/-- Nothing is sent along. -/
def Payload.none : Payload := ⟨.none, []⟩

/-- A request. -/
structure Request where
  /-- What it is for. -/
  method : Method
  /-- Where it goes, without a user. -/
  url : Url
  /-- The form in which an answer is accepted. -/
  accept : String
  /-- Who asks. -/
  authorization : Option String
  /-- What is sent along. -/
  payload : Payload
deriving DecidableEq, Repr

/-- An answer. -/
structure Reply where
  /-- The status. -/
  status : Nat
  /-- The body. -/
  body : Bytes
deriving DecidableEq, Repr

/-- A way to have requests answered. -/
abbrev Transport (σ : Type) : Type := Request → Action σ (Option Reply)

namespace Reply

/-- Whether the status tells of success. -/
def isSuccess (r : Reply) : Bool := 200 ≤ r.status && r.status < 300

/-- The body as a text. -/
def text (r : Reply) : String := Utf8.lossy r.body

end Reply

/-- The header that names a user with a password. -/
def basicAuthorization (user password : String) : String :=
  "Basic " ++ Base64.encode (Utf8.encode (user ++ ":" ++ password))

/-- The user and the password in a URL. -/
def userOf? (u : Url) : Option (String × String) :=
  if u.username.isEmpty && u.password.isEmpty then none
  else (Utf8.text? (Url.Percent.decode u.username)).map fun user =>
    (user, (Utf8.text? (Url.Percent.decode u.password)).getD "")

namespace Request

/-- A request to a URL, by the user in the URL if there is one, or else by the given user. -/
def ofUrl (u : Url) (method : Method) (accept : String) (user : Option (String × String))
    (payload : Payload) : Request :=
  match userOf? u with
  | some (name, password) =>
    ⟨method, { u with username := "", password := "" }, accept,
      some (basicAuthorization name password), payload⟩
  | none => ⟨method, u, accept, user.map fun (n, p) => basicAuthorization n p, payload⟩

/-- The path and the query that a request asks for. -/
def target (r : Request) : String :=
  r.url.path.toText
    ++ (match r.url.query with
      | some query => "?" ++ query
      | none => "")

/-- The method and the target of a request. -/
def line (r : Request) : String := r.method.name ++ " " ++ r.target

end Request

end ClusterPackages.Http
