/-!
# Concurrency limits

How many requests of a run may be in flight at once. The limit starts at a configured number and
falls to one when the source asks to slow down; it never rises again.
-/

namespace UsageReports

/-- A limit that was `initial` and is now `current`. -/
structure Limit where
  initial : Nat
  current : Nat
deriving DecidableEq

namespace Limit

/-- A fresh limit of `max`, at least one. -/
def ofMax (max : Nat) : Limit := ⟨Nat.max max 1, Nat.max max 1⟩

/-- Whether lowering the limit would change it. -/
def canLower (l : Limit) : Bool := 1 < l.current

/-- The limit after a request to slow down. -/
def lowered (l : Limit) : Limit := { l with current := 1 }

/-- Whether the limit has been lowered. -/
def isThrottled (l : Limit) : Bool := l.current < l.initial

end Limit

end UsageReports
