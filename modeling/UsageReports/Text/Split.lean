/-!
# Splitting

Cutting a list at one of its members, at the first place or at each.
-/

namespace UsageReports

variable {α : Type} [DecidableEq α]

/-- The pieces between the places where `a` stands; there is one more than there are places. -/
def splitAtEach (a : α) : List α → List (List α)
  | [] => [[]]
  | x :: xs =>
    if x = a then [] :: splitAtEach a xs
    else match splitAtEach a xs with
      | [] => [[x]]
      | piece :: pieces => (x :: piece) :: pieces

/-- What stands before the first `a`, and what stands after it if there is one. -/
def splitAtFirst (a : α) (xs : List α) : List α × Option (List α) :=
  match xs.dropWhile (· ≠ a) with
  | [] => (xs, none)
  | _ :: rest => (xs.takeWhile (· ≠ a), some rest)

/-- What stands before the last `a` if there is one, and what stands after it. -/
def splitAtLast (a : α) (xs : List α) : Option (List α) × List α :=
  let (after, before) := splitAtFirst a xs.reverse
  (before.map List.reverse, after.reverse)

/-- There is always a first piece. -/
theorem splitAtEach_ne_nil (a : α) (xs : List α) : splitAtEach a xs ≠ [] := by
  cases xs with
  | nil => simp [splitAtEach]
  | cons x xs =>
    rw [splitAtEach]
    split
    · simp
    · split <;> simp

/-- The pieces with `a` between them make up the list. -/
theorem intercalate_splitAtEach (a : α) (xs : List α) :
    [a].intercalate (splitAtEach a xs) = xs := by
  induction xs with
  | nil => rfl
  | cons x xs ih =>
    rw [splitAtEach]
    have hne := splitAtEach_ne_nil a xs
    obtain ⟨piece, pieces, h⟩ := List.exists_cons_of_ne_nil hne
    rw [h] at ih ⊢
    split
    · next hx => subst hx; rw [← ih]; simp [List.intercalate]
    · simp only
      rw [← ih]
      cases pieces <;> simp [List.intercalate]

end UsageReports
