import ClusterPackages.Url.Domain.Name
import ClusterPackages.Url.Ip
import ClusterPackages.Url.Percent

namespace ClusterPackages.Url

open Text

/-!
# Hosts

* `Host` — a name or an address.
* `Host.ofSpecial?` — a host of a scheme whose hosts are looked up.
* `Host.ofOther?` — a host of any other scheme, whose name is kept as it is.
-/

/-- A host. -/
inductive Host where
  /-- A host by its name, which may be empty where a scheme has no use for one. -/
  | named (name : String)
  /-- An address of 32 bits. -/
  | v4 (address : Nat)
  /-- An address of eight pieces of 16 bits. -/
  | v6 (pieces : List Nat)
deriving DecidableEq, Repr

namespace Host

/-- The text of a host. -/
def toText : Host → String
  | named name => name
  | v4 address => Ip.v4Text address
  | v6 pieces => "[" ++ Ip.v6Text pieces ++ "]"

/-- The text of a host, without brackets around an address. -/
def bare : Host → String
  | v6 pieces => Ip.v6Text pieces
  | host => host.toText

/-- The address between the brackets of the characters. -/
def bracketed? (cs : List Char) : Option Host :=
  if cs.getLast? == some ']' then (Ip.v6? (cs.drop 1).dropLast).map v6 else none

/-- The host for the characters, in a scheme whose hosts are looked up.  A name that ends in a
    number has to be an address. -/
def ofSpecial? (cs : List Char) : Option Host :=
  if cs.head? == some '[' then bracketed? cs
  else do
    let decoded ← Utf8.text? (Percent.decodeChars cs)
    let name ← Domain.toAscii? decoded.toList
    if name.isEmpty then none
    else if Ip.endsInNumber name then (Ip.v4? name).map v4
    else some (named name)

/-- Whether a character may not stand in a name that is kept as it is. -/
def isForbidden (c : Char) : Bool :=
  c.toNat == 0 || c == '\t' || c == '\n' || c == '\r' || " #/:<>?@[\\]^|".toList.contains c

/-- The host for the characters, in any other scheme. -/
def ofOther? (cs : List Char) : Option Host :=
  if cs.head? == some '[' then bracketed? cs
  else if cs.any isForbidden then none
  else some (named (Percent.encode Percent.controls cs))

end Host

end ClusterPackages.Url
