import Palette.Load.Extracts

/-!
# What the incremental loads promise

After a load that gets to its end, the remote changes that were there when it asked
have been processed. This holds of runs in which no remote change ties with a stored
one and no failing load stores something later than what it leaves behind; outside of
these runs the resume point passes a change that was never processed. For extract jobs
the jobs that a load over an empty table passed over are excepted.
-/

namespace Palette.Load

open Palette.Foundation

universe u

/-- A workbook of project 3 in its first revision. -/
def firstRevision : RemoteItem Unit := ⟨⟨1, 3, "luid"⟩, 1, 5, ()⟩

end Palette.Load
