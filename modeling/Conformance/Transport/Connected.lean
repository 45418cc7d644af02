import Conformance.Config
import Conformance.Transport.Curl
import Conformance.Transport.Http

/-!
# Transports by configuration

The transport that a configuration asks for, over any host that starts programs and any network.
-/

namespace Conformance

/-- The transport of a configuration. -/
def Transport.connect {σ : Type} (launch : Launcher σ) (network : Network) (c : Config) :
    Transport σ :=
  match c.channel with
  | .curl => .curl launch c.curlBinary c.endpoint (c.timeout.map (1000 * ·))
  | .http => .http network c.endpoint

end Conformance
