import ClusterPackages.Http.Message

namespace ClusterPackages.Http

open Text

/-!
# Endpoints

* `Endpoint` — the address of a service that answers in JSON, and who asks it.
* `Endpoint.ofAddress` — blank credentials do not count.
* `Endpoint.send` — the answer to a request for a path below the address.
-/

/-- The address of a service, and who asks it. -/
structure Endpoint where
  /-- The URL of the service. -/
  base : Url
  /-- The user and the password. -/
  user : Option (String × String)
deriving DecidableEq, Repr

namespace Endpoint

/-- The endpoint at an address; a user counts only together with a password. -/
def ofAddress (address : String) (name password : Option String) : Except Error Endpoint := do
  let base ← Url.ofAddress address
  let user := name.bind fun n => password.map (n, ·)
  .ok ⟨base, user.filter fun (n, p) => !n.isEmpty && !p.isEmpty⟩

/-- The URL of a path below the address. -/
def url (e : Endpoint) (path : String) : Except Error Url :=
  match e.base.below? path with
  | some u => .ok u
  | none => .error (.failed "build url" path .malformed)

/-- The answer to a request for a path below the address. -/
def send {σ : Type} (e : Endpoint) (t : Transport σ) (method : Method) (path : String)
    (payload : Payload) : Action σ Reply := do
  let u ← Action.ofExcept (e.url path)
  match ← t (.ofUrl u method "application/json" e.user payload) with
  | some reply => pure reply
  | none => Action.fail (.failed (method.name ++ " " ++ u.path.toText) u.toText .unreachable)

end Endpoint

end ClusterPackages.Http
