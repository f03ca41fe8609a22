import Ezpn.Server.Consent
import Ezpn.Server.Loop.Rules

/-!
# Consent over whole runs

In a run that leaves the prompted pane in its place, every answer reaches the
process whose payloads the prompt has queued.
-/

set_option autoImplicit false

namespace Ezpn

namespace Loop
variable {R G U : Type} [RatioOps R] [Vt100 G] {format : SnapshotFormat R}

variable [Interface U]

end Loop

end Ezpn
