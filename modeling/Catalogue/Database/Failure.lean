/-!
# Failures of the database

What a database can answer to a statement instead of a result. Callers tell the kinds apart; the
texts are for the log.
-/

namespace Catalogue

/-- Why a **statement has no result**. -/
inductive Failure where
  /-- The database refused it. `unique` says whether two rows would have had the same unique value,
  and `constraint` names the constraint, where the database tells. -/
  | refused (message : String) (unique : Bool) (constraint : Option String)
  /-- No connection came free in time. -/
  | timedOut
  /-- There is no connection. -/
  | disconnected (message : String)
  /-- Anything else. -/
  | other (message : String)
  deriving DecidableEq

end Catalogue
