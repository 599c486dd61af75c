import JournalSite.Boundary.View
import JournalSite.Component.Layout
import JournalSite.Component.StatusPill

/-!
# View trees

A view tree describes a part of a page before it is built. It is built from the
beginning to the end, and a failure ends the building, unless a boundary stands
around the place of the failure: then the boundary's panel takes the place of all
that is inside the boundary, and the building goes on after it.
-/

namespace JournalSite

/-- A description of a part of a page. -/
inductive ViewTree where
  /-- A paragraph. -/
  | paragraph (content : String)
  /-- Parts one after the other in a division. -/
  | division (children : List ViewTree)
  /-- The pill of a status. -/
  | pill (status : String)
  /-- A part inside a boundary of its own. -/
  | boundary (inner : ViewTree)
  /-- A part inside a layout shell. -/
  | shell (inner : ViewTree)
  /-- A part that fails. -/
  | failing (e : Failure)

namespace ViewTree

mutual

/-- Builds a tree, up to the first failure that no boundary holds. -/
def build : ViewTree → Except Failure Markup
  | paragraph content => .ok (.element "p" [] (.text content))
  | division children => do
    let parts ← buildAll children
    .ok (.element "div" [] (.listed parts))
  | pill status => .ok (statusPill status)
  | boundary inner => .ok (guarded (build inner))
  | shell inner => do
    let part ← build inner
    .ok (layoutShell part)
  | failing e => .error e

/-- Builds trees in order. -/
def buildAll : List ViewTree → Except Failure (List Markup)
  | [] => .ok []
  | tree :: trees => do
    let part ← build tree
    let parts ← buildAll trees
    .ok (part :: parts)

end

end ViewTree

end JournalSite
