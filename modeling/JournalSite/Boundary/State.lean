import JournalSite.Boundary.Failure

/-!
# Boundaries

A boundary stands around a part of a page that may fail to build. It begins
`normal`. The first failure it meets makes it `failed`, and it stays so, whatever
the part would do now, until someone resets it.

Building a part may have effects, which are those of the monad `m`: to read the
address of the page, to count. A failed boundary answers without building, so the
effects of the part do not happen.
-/

namespace JournalSite

/-- Where a boundary stands. -/
inductive Boundary where
  /-- Nothing has failed since the last reset. -/
  | normal
  /-- This failure was met and has not been reset. -/
  | failed (e : Failure)
  deriving DecidableEq, Repr

/-- What came of an attempt to build a part. -/
inductive Outcome (α : Type) where
  /-- The part was built. -/
  | rendered (part : α)
  /-- The part failed, and the boundary has just become failed. -/
  | captured (e : Failure)
  /-- The boundary was failed already, and the part was not tried. -/
  | failed (e : Failure)
  deriving DecidableEq, Repr

namespace Boundary

/-- Whether the boundary is failed. -/
def isFailed : Boundary → Bool
  | normal => false
  | failed _ => true

/-- Records a failure, in place of an earlier one if there is one. The answer is whether the
boundary was normal before. -/
def capture (b : Boundary) (e : Failure) : Bool × Boundary :=
  (!b.isFailed, failed e)

/-- Forgets the failure. -/
def reset (_ : Boundary) : Boundary := normal

/-- Builds the part unless the boundary is failed already. The first failure stays. -/
def attempt {m : Type → Type} [Monad m] {α : Type} (b : Boundary)
    (build : m (Except Failure α)) : m (Outcome α × Boundary) :=
  match b with
  | failed e => pure (.failed e, failed e)
  | normal => do
    match ← build with
    | .ok part => pure (.rendered part, normal)
    | .error e => pure (.captured e, (normal.capture e).2)

end Boundary

end JournalSite
