import Backfill.Key
import Backfill.Calendar.Stamp

/-!
# Source rows

A row of the source is a natural key with the instant at which the thing it names was created.
-/

namespace Backfill

open Calendar

structure Row where
  key : Key
  createdAt : Instant
deriving DecidableEq

namespace Row

/-- The form in which the creation date is stored in the graph. -/
def stamp (r : Row) : String :=
  r.createdAt.stamp

end Row

end Backfill
