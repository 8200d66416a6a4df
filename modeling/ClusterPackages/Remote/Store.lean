import ClusterPackages.Cluster.Call
import ClusterPackages.Cluster.Services
import ClusterPackages.Http.Form
import ClusterPackages.Http.Message
import ClusterPackages.Http.Phrase

namespace ClusterPackages.Remote

open Text Json Http

/-!
# The store over HTTP

Keys are paths below `v1/kv/`, and values are bodies.  What is missing is not an error when it is
read.

* `keyUrl?` — the URL of a key.
* `store` — the key-value store.
-/

/-- The URL of a key; slashes at its front do not count. -/
def keyUrl? (base : Url) (key : String) : Option Url :=
  base.resolve? ("v1/kv/" ++ dropLeading '/' key)

/-- What a listing tells of a key. -/
structure StoredEntry where
  /-- The key. -/
  key : String
  /-- The value in Base64, if there is one. -/
  value : Option String
deriving DecidableEq, Repr

namespace StoredEntry

/-- The entry that a document spells. -/
def ofDocument? (d : Document) : Option StoredEntry :=
  match Document.record? ["Key", "Value"] d with
  | some [key, value] => do
    let key ← Document.required Document.string? key
    let value ← Document.absent none (Document.nullable Document.string?) value
    some ⟨key, value⟩
  | _ => none

/-- The key with its value. -/
def decode (e : StoredEntry) : Except Error (String × Bytes) :=
  match e.value with
  | none => .ok (e.key, [])
  | some text =>
    match Base64.decode? text with
    | some value => .ok (e.key, value)
    | none => .error (.failed "kv decode" e.key .malformed)

end StoredEntry

variable {σ : Type} (t : Transport σ) (base : Url)

/-- The answer to a call about a key, with fields added to the URL of the key. -/
def askStore (c : Call) (method : Method) (fields : List (String × String)) (body : Bytes) :
    Action σ Reply :=
  match keyUrl? base c.context with
  | none => Action.fail (.failed "build consul url" c.context .malformed)
  | some u => do
    let u := fields.foldl (fun u (name, value) => u.withField name value) u
    match ← t (.ofUrl u method "*/*" none ⟨none, body⟩) with
    | some reply => pure reply
    | none => Action.fail (c.error .unreachable)

/-- The error of an answer that does not tell of success. -/
def refusal (c : Call) (r : Reply) : Error := c.error (.statusLine r.status (phrase r.status))

/-- What was asked for, if it is there. -/
def found? (c : Call) (r : Reply) : Except Error (Option Bytes) :=
  if r.status = 404 then .ok none
  else if r.isSuccess then .ok (some r.body)
  else .error (refusal c r)

/-- The items of the array that was asked for; there are none if it is not there. -/
def listed {α : Type} (c : Call) (f : Document → Option α) (r : Reply) : Except Error (List α) := do
  match ← found? c r with
  | none => .ok []
  | some body =>
    match (Document.read? (Utf8.decode body)).bind (Document.list? f) with
    | some items => .ok items
    | none => .error (c.error .malformed)

/-- Nothing, if the answer tells of success. -/
def succeeded (c : Call) (r : Reply) : Except Error Unit :=
  if r.isSuccess then .ok () else .error (refusal c r)

/-- The fields that ask for keys. -/
def keyFields (separator : Option String) : List (String × String) :=
  ("keys", "") :: (separator.map fun s => ("separator", s)).toList

/-- The key-value store at a URL. -/
def store : Store σ where
  get key := do
    let reply ← askStore t base (.get key) .get [("raw", "")] []
    Action.ofExcept (found? (.get key) reply)
  put key value := do
    let reply ← askStore t base (.put key) .put [] value
    Action.ofExcept (succeeded (.put key) reply)
  keys start separator := do
    let reply ← askStore t base (.keys start) .get (keyFields separator) []
    Action.ofExcept (listed (.keys start) Document.string? reply)
  list start := do
    let reply ← askStore t base (.list start) .get [("recurse", "")] []
    let entries ← Action.ofExcept (listed (.list start) StoredEntry.ofDocument? reply)
    Action.ofExcept (entries.mapM StoredEntry.decode)
  delete key := do
    let reply ← askStore t base (.delete key) .delete [] []
    Action.ofExcept (succeeded (.delete key) reply)

end ClusterPackages.Remote
