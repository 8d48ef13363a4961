import UsageReports.Pace.Backoff

/-!
# Trying again

An operation is called until it succeeds, fails in a way that is final, or the retries are spent.
What its calls return is a sequence `results`; what comes out is the last call's result and the
waits between the calls.
-/

namespace UsageReports

/-- The end of a retried operation: the last call's result, and the waits before the second call,
the third, and so on. -/
structure Retried (ε α : Type) where
  result : Except ε α
  waits : List Nat

namespace Retried

variable {ε α : Type}

/-- How often the operation was called. -/
def calls (r : Retried ε α) : Nat := r.waits.length + 1

/-- The time of each call from `now` on, in milliseconds. -/
def times (now : Nat) : List Nat → List Nat
  | [] => [now]
  | wait :: waits => now :: times (now + wait) waits

end Retried

namespace Backoff

variable {ε α : Type}

/-- Call number `attempt` and those after it, with `left` retries left. -/
def retryFrom (b : Backoff) (retryable : ε → Bool) (results : Nat → Except ε α) (attempt : Nat) :
    Nat → Retried ε α
  | 0 => ⟨results attempt, []⟩
  | left + 1 =>
    match results attempt with
    | .ok a => ⟨.ok a, []⟩
    | .error e =>
      if retryable e then
        let rest := b.retryFrom retryable results (attempt + 1) left
        ⟨rest.result, b.delay (attempt + 1) :: rest.waits⟩
      else ⟨.error e, []⟩

/-- Call an operation until it succeeds, fails for good, or the retries are spent. -/
def retry (b : Backoff) (retryable : ε → Bool) (results : Nat → Except ε α) : Retried ε α :=
  b.retryFrom retryable results 0 b.maxRetries

end Backoff

end UsageReports
