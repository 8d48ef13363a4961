/-!
# Lists with keys

A list in which each entry has a key of its own. `Keyed.put` replaces the entry of a key or adds one
at the end, `Keyed.get?` finds it, `Keyed.erase` removes it.
-/

namespace UsageReports.Keyed

variable {α κ : Type} [DecidableEq κ]

/-- The entry of a key. -/
def get? (key : α → κ) (k : κ) (entries : List α) : Option α := entries.find? (key · = k)

/-- Replace the entry with the key of `a`, or add `a` at the end. -/
def put (key : α → κ) (a : α) : List α → List α
  | [] => [a]
  | b :: rest => if key b = key a then a :: rest else b :: put key a rest

/-- Remove the entry of a key. -/
def erase (key : α → κ) (k : κ) (entries : List α) : List α := entries.filter (key · ≠ k)

/-- An entry just put is found under its key. -/
theorem get?_put_self (key : α → κ) (a : α) (entries : List α) :
    get? key (key a) (put key a entries) = some a := by
  induction entries with
  | nil => simp [get?, put]
  | cons b rest ih =>
    unfold get? at ih ⊢
    by_cases h : key b = key a
    · simp [put, h]
    · simp [put, h, ih]

/-- Putting an entry changes nothing under other keys. -/
theorem get?_put_of_ne (key : α → κ) {a : α} {k : κ} (hk : key a ≠ k) (entries : List α) :
    get? key k (put key a entries) = get? key k entries := by
  induction entries with
  | nil => simp [get?, put, hk]
  | cons b rest ih =>
    unfold get? at ih ⊢
    by_cases h : key b = key a
    · have hb : key b ≠ k := h ▸ hk
      simp [put, h, hk]
    · rw [put, if_neg h, List.find?_cons, List.find?_cons, ih]

/-- A removed key has no entry. -/
theorem get?_erase_self (key : α → κ) (k : κ) (entries : List α) :
    get? key k (erase key k entries) = none := by
  simp [get?, erase]

end UsageReports.Keyed
