import ClusterPackages.Url.Host

namespace ClusterPackages

open Text

/-!
# URLs

* `Url` — the parts of a URL, each in its normal form.
* `Url.toText` — the parts as one text.
* `Url.isSpecial`, `Url.defaultPort?` — what depends on the scheme.
-/

/-- The path of a URL. -/
inductive Url.Path where
  /-- A text without structure, where a URL has no host and its path no slash at the front. -/
  | whole (text : String)
  /-- Segments, each with a slash before it. -/
  | segments (list : List String)
deriving DecidableEq, Repr

/-- A URL. -/
structure Url where
  /-- The scheme, in small letters. -/
  scheme : String
  /-- The name of the user, or nothing. -/
  username : String
  /-- The password, or nothing. -/
  password : String
  /-- The host. -/
  host : Option Url.Host
  /-- The port, if it is not the one of the scheme. -/
  port : Option Nat
  /-- The path. -/
  path : Url.Path
  /-- The part after the question mark. -/
  query : Option String
  /-- The part after the number sign. -/
  fragment : Option String
deriving DecidableEq, Repr

namespace Url

/-- The text of a path. -/
def Path.toText : Path → String
  | whole text => text
  | segments list => concat (list.map ("/" ++ ·))

/-- The port that a scheme uses when none is given. -/
def defaultPort? (scheme : String) : Option Nat :=
  if scheme = "http" || scheme = "ws" then some 80
  else if scheme = "https" || scheme = "wss" then some 443
  else if scheme = "ftp" then some 21
  else none

/-- Whether the URLs of a scheme name files. -/
def isFile (scheme : String) : Bool := scheme == "file"

/-- Whether the hosts of a scheme are looked up, and a backslash in its paths is a slash. -/
def isSpecial (scheme : String) : Bool := isFile scheme || (defaultPort? scheme).isSome

/-- The name and the password, as they stand before a host. -/
def userinfo (u : Url) : String :=
  if u.username.isEmpty && u.password.isEmpty then ""
  else u.username ++ (if u.password.isEmpty then "" else ":" ++ u.password) ++ "@"

/-- The host with what stands around it.  Without a host, two slashes at the front of a path are
    kept apart from it by a point. -/
def authority (u : Url) : String :=
  match u.host with
  | some host =>
    "//" ++ u.userinfo ++ host.toText
      ++ (match u.port with
        | some port => ":" ++ toString port
        | none => "")
  | none =>
    match u.path with
    | .segments ("" :: _ :: _) => "/."
    | _ => ""

/-- The text of a URL. -/
def toText (u : Url) : String :=
  u.scheme ++ ":" ++ u.authority ++ u.path.toText
    ++ (match u.query with
      | some query => "?" ++ query
      | none => "")
    ++ (match u.fragment with
      | some fragment => "#" ++ fragment
      | none => "")

end Url

end ClusterPackages
