import ClusterPackages.Error
import ClusterPackages.Text.Blank
import ClusterPackages.Url.Read

namespace ClusterPackages.Url

open Text

/-!
# Addresses of services

A service is configured by an address, and its endpoints are paths below that address.

* `ofAddress` — the URL of a service; an address without a scheme is one of HTTP, and the path
  ends in a slash.
* `below?` — the URL of an endpoint.
-/

/-- The URL with a slash at the end of its path. -/
def closed (u : Url) : Url :=
  let text := u.path.toText
  if text.toList.getLast? == some '/' then u
  else { u with path := u.path.respell u.scheme (text ++ "/") }

/-- An address with its scheme. -/
def withScheme (address : String) : String :=
  if (cutAt? "://" address).isSome then address else "http://" ++ address

/-- The URL of the service with an address. -/
def ofAddress (address : String) : Except Error Url :=
  match parse? (withScheme (trim address)) with
  | some u => .ok u.closed
  | none => .error (.failed "parse url" address .malformed)

/-- The URL of a path below a service; slashes at its front do not count. -/
def below? (base : Url) (path : String) : Option Url := base.resolve? (dropLeading '/' path)

end ClusterPackages.Url
