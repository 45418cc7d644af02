import Conformance.Transport
import Conformance.Url

/-!
# Requests over a network

A request goes to the host that the endpoint names. The network is a parameter: it answers the body
of the host's response, or nothing if no host could be reached.
-/

namespace Conformance

/-- What comes back from an address for a request. -/
abbrev Network := Url → String → Option String

/-- The network on which no host can be reached. -/
def Network.silent : Network := fun _ _ => none

namespace Http

/-- The address that a request goes to. The name and the password of a user do not belong to it,
unless they cannot be read. -/
def requested (u : Url) : Url :=
  match Url.percentDecode? u.user.toList, u.password.map fun p => Url.percentDecode? p.toList with
  | none, _ => u
  | some [], none | some [], some none => u
  | some _, _ => u.anonymous

/-- The length of an address in bytes that a request can carry. -/
def maxLength : Nat := 65534

/-- Can a request be sent to the address? It has a host whose name can stand in a request, and one
of the two schemes of this transport. -/
def isReachable (u : Url) : Bool :=
  match u.host with
  | none => false
  | some host =>
    (u.scheme = "http" || u.scheme = "https") && u.text.utf8ByteSize ≤ maxLength
      && !host.text.toList.any "\"%\x60\x7b\x7d".toList.contains

/-- The answer to a request. An endpoint that is no address, or that of another protocol, is refused
before anything is sent. -/
def answer (network : Network) (endpoint payload : String) : Answer :=
  match Url.read endpoint with
  | none => .error (.http "builder error")
  | some u =>
    let u := requested u
    if !isReachable u then .error (.http ("builder error for url (" ++ u.text ++ ")"))
    else
      match network u payload with
      | some body => .ok (stripLineEnd body)
      | none => .error (.http ("error sending request for url (" ++ u.text ++ ")"))

end Http

/-- The transport that sends requests over a network. -/
def Transport.http {σ : Type} (network : Network) (endpoint : String) : Transport σ where
  label := "http"
  send payload state files := ⟨Http.answer network endpoint payload, state, files⟩

end Conformance
