import Mathlib.Algebra.Group.Defs
import UsageReports.Harvest.Run

/-!
# Tallies add up

Tallies are added count by count. Emitting records adds how many of them are successes and how many
are placeholders.
-/

namespace UsageReports.Tally

attribute [ext] Tally

instance : Zero Tally := ⟨{}⟩

instance : Add Tally where
  add s t :=
    { fetched := s.fetched + t.fetched
      successes := s.successes + t.successes
      placeholders := s.placeholders + t.placeholders
      rateLimited := s.rateLimited + t.rateLimited
      narrowed := s.narrowed + t.narrowed }

@[simp] theorem fetched_add (s t : Tally) : (s + t).fetched = s.fetched + t.fetched := rfl
@[simp] theorem successes_add (s t : Tally) : (s + t).successes = s.successes + t.successes := rfl
@[simp] theorem placeholders_add (s t : Tally) :
    (s + t).placeholders = s.placeholders + t.placeholders := rfl
@[simp] theorem rateLimited_add (s t : Tally) :
    (s + t).rateLimited = s.rateLimited + t.rateLimited := rfl
@[simp] theorem narrowed_add (s t : Tally) : (s + t).narrowed = s.narrowed + t.narrowed := rfl
@[simp] theorem fetched_zero : (0 : Tally).fetched = 0 := rfl
@[simp] theorem successes_zero : (0 : Tally).successes = 0 := rfl
@[simp] theorem placeholders_zero : (0 : Tally).placeholders = 0 := rfl
@[simp] theorem rateLimited_zero : (0 : Tally).rateLimited = 0 := rfl
@[simp] theorem narrowed_zero : (0 : Tally).narrowed = 0 := rfl

instance : AddCommMonoid Tally where
  add_assoc s t u := by ext <;> simp [Nat.add_assoc]
  zero_add t := by ext <;> simp
  add_zero t := by ext <;> simp
  add_comm s t := by ext <;> simp [Nat.add_comm]
  nsmul := nsmulRec

/-- How many of some records are successes, and how many are placeholders. -/
def ofRecords (records : List Record) : Tally :=
  { successes := records.countP (!·.isFailure), placeholders := records.countP (·.isFailure) }

@[simp] theorem ofRecords_nil : ofRecords [] = 0 := rfl

theorem ofRecords_append (a b : List Record) : ofRecords (a ++ b) = ofRecords a + ofRecords b := by
  ext <;> simp [ofRecords, List.countP_append]

/-- Emitting records one by one adds their counts. -/
theorem foldl_emit (t : Tally) (records : List Record) :
    records.foldl emit t = t + ofRecords records := by
  induction records generalizing t with
  | nil => exact (add_zero t).symm
  | cons r rest ih =>
    have hemit : t.emit r = t + ofRecords [r] := by
      cases h : r.isFailure <;> ext <;> simp [emit, ofRecords, h]
    rw [List.foldl_cons, ih, hemit, add_assoc, ← ofRecords_append]
    rfl

end UsageReports.Tally
