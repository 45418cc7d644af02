import Conformance.Url.Address
import Conformance.Url.Domain
import Conformance.Url.Percent

/-!
# Hosts

A host has a name or a numeric address. A well-known scheme knows what a name means: it reads a name
that ends in a number as an address, and writes other names in ASCII. For any other scheme a name is
only a text.
-/

namespace Conformance.Url

/-- A host. -/
inductive Host where
  /-- A name, which may be empty. -/
  | name (text : String)
  /-- An address of four bytes. -/
  | fourBytes (n : Nat)
  /-- An address of eight groups. -/
  | eightGroups (groups : List Nat)
  deriving Repr, DecidableEq

namespace Host

/-- The host as it stands in an address. -/
def text : Host → String
  | name s => s
  | fourBytes n => fourBytesText n
  | eightGroups groups => "[" ++ eightGroupsText groups ++ "]"

/-- The host whose name is empty. -/
def none : Host := name ""

/-- An address between brackets. -/
def inBrackets? (s : List Char) : Option Host :=
  match s.reverse with
  | ']' :: inner => (eightGroups? inner.reverse).map eightGroups
  | _ => .none

/-- The host that a text names for a well-known scheme. -/
def wellKnown? (s : List Char) : Option Host :=
  match s with
  | '[' :: rest => inBrackets? rest
  | s => do
    let name ← Domain.ofText? (← percentDecode? s)
    if name.isEmpty then .none
    if endsInNumber name.toList then return fourBytes (← fourBytes? name.toList)
    return .name name

/-- What the name of a host may not hold for any scheme. -/
def isForbidden (c : Char) : Bool := "\x00\t\n\r #/:<>?@[\\]^|".toList.contains c

/-- The host that a text names for any other scheme. -/
def ofText? (s : List Char) : Option Host :=
  match s with
  | '[' :: rest => inBrackets? rest
  | s =>
    if s.any isForbidden then .none
    else some (name (String.ofList (percentEncode isControl s)))

end Host

end Conformance.Url
