import Conformance.Process
import Conformance.Transport.Connected

/-!
# The configured transport

The transport that a configuration asks for, where the plain host starts the programs.
-/

namespace Conformance

/-- The transport of a configuration on the plain host. -/
def Transport.ofConfig (network : Network) (c : Config) : Transport Unit :=
  .connect Process.launcher network c

end Conformance
