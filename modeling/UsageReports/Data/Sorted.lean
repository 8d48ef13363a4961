/-!
# Sorted lists without repetition

A set of names or months is kept as a list in increasing order that holds each member once. For
entries with keys, of several with one key the last one counts.
-/

namespace UsageReports

/-- Keep the last of successive entries with equal keys. -/
def lastOfEach {α κ : Type} [DecidableEq κ] (key : α → κ) : List α → List α
  | [] => []
  | [a] => [a]
  | a :: b :: rest =>
    if key a = key b then lastOfEach key (b :: rest) else a :: lastOfEach key (b :: rest)

/-- The entries in the order of their keys; of several with one key the last. -/
def sortedBy {α κ : Type} [DecidableEq κ] [LE κ] [DecidableLE κ] (key : α → κ) (items : List α) :
    List α :=
  lastOfEach key (items.mergeSort fun a b => key a ≤ key b)

/-- The members of a list in increasing order, each once. -/
def sortedSet {α : Type} [DecidableEq α] [LE α] [DecidableLE α] (items : List α) : List α :=
  sortedBy id items

end UsageReports
