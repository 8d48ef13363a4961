import UsageReports.Json.Value

/-!
# Values as trees

The tree of a value is the data that a document of it holds. Only that data has the value of a
scalar.
-/

namespace UsageReports.Json

mutual

/-- The tree of a value. -/
def data : Json → Data
  | .null => .null
  | .bool b => .bool b
  | .int n => .int n
  | .double bits => .double bits
  | .str s => .text s
  | .arr items => .list (itemData items)
  | .obj fields => .table (fieldData fields)

/-- The trees of the items of a list. -/
def itemData : List Json → List Data
  | [] => []
  | item :: items => data item :: itemData items

/-- The trees of the fields of an object. -/
def fieldData : List (String × Json) → List (String × Data)
  | [] => []
  | (key, value) :: fields => (key, data value) :: fieldData fields

end

mutual

/-- How deep lists and objects are nested in a value. -/
def depth : Json → Nat
  | .null | .bool _ | .int _ | .double _ | .str _ => 0
  | .arr items => itemDepth items + 1
  | .obj fields => fieldDepth fields + 1

/-- How deep lists and objects are nested in the items of a list. -/
def itemDepth : List Json → Nat
  | [] => 0
  | item :: items => max (depth item) (itemDepth items)

/-- How deep lists and objects are nested in the fields of an object. -/
def fieldDepth : List (String × Json) → Nat
  | [] => 0
  | (_, value) :: fields => max (depth value) (fieldDepth fields)

end

theorem data_eq_null_iff {j : Json} : j.data = .null ↔ j = .null := by
  cases j <;> simp [data]

/-! ### Scalars -/

/-- Whether a value is no list and no object. -/
def IsScalar : Json → Prop
  | .arr _ | .obj _ => False
  | .null | .bool _ | .int _ | .double _ | .str _ => True

section Scalars

variable {j : Json} {d : Data} {room : Nat}

/-- Only its own tree has the value of a scalar. -/
theorem eq_data_of_isScalar (h : ofData? room d = some j) (hj : j.IsScalar) : d = j.data := by
  cases d with
  | list items =>
    cases room with
    | zero => simp [ofData?] at h
    | succ room =>
      obtain ⟨js, -, rfl⟩ := Option.map_eq_some_iff.mp h
      exact hj.elim
  | table entries =>
    cases room with
    | zero => simp [ofData?] at h
    | succ room =>
      obtain ⟨fields, -, rfl⟩ := Option.map_eq_some_iff.mp h
      exact hj.elim
  | unusable => simp [ofData?] at h
  | null | bool | int | double | text =>
    simp only [ofData?, Option.some.injEq] at h
    rw [← h, data]

/-- A scalar may stand anywhere. -/
theorem ofData?_data_of_isScalar (hj : j.IsScalar) :
    ofData? room j.data = if j.depth ≤ room then some j else none := by
  cases j with
  | arr items => exact hj.elim
  | obj fields => exact hj.elim
  | null | bool | int | double | str => rw [data, ofData?, depth, if_pos (Nat.zero_le _)]

end Scalars

/-! ### Lists and objects -/

section Nested

variable {items : List Json} {fields : List (String × Json)} {room : Nat}

theorem fieldDepth_le (h : ∀ f ∈ fields, f.2.depth ≤ room) : fieldDepth fields ≤ room := by
  induction fields with
  | nil => exact Nat.zero_le _
  | cons f fields ih =>
    obtain ⟨hf, hfields⟩ := List.forall_mem_cons.mp h
    exact Nat.max_le.mpr ⟨hf, ih hfields⟩

/-- The trees of items are read if all of them can be. -/
theorem mapM_itemData
    (h : ∀ j ∈ items, ofData? room j.data = if j.depth ≤ room then some j else none) :
    (itemData items).mapM (ofData? room) = if itemDepth items ≤ room then some items else none := by
  induction items with
  | nil =>
    rw [itemData, itemDepth, if_pos (Nat.zero_le _)]
    rfl
  | cons j items ih =>
    obtain ⟨hj, hitems⟩ := List.forall_mem_cons.mp h
    rw [itemData, List.mapM_cons, hj, ih hitems, itemDepth]
    simp only [Nat.max_le]
    by_cases hdepth : j.depth ≤ room
    · by_cases hrest : itemDepth items ≤ room
      · simp [hdepth, hrest]
      · simp [hdepth, hrest]
    · simp [hdepth]

/-- The trees of fields are read if all of them can be. -/
theorem mapM_fieldData
    (h : ∀ f ∈ fields, ofData? room f.2.data = if f.2.depth ≤ room then some f.2 else none) :
    (fieldData fields).mapM (fun e ↦ (ofData? room e.2).map (e.1, ·)) =
      if fieldDepth fields ≤ room then some fields else none := by
  induction fields with
  | nil =>
    rw [fieldData, fieldDepth, if_pos (Nat.zero_le _)]
    rfl
  | cons f fields ih =>
    obtain ⟨k, j⟩ := f
    obtain ⟨hj, hfields⟩ := List.forall_mem_cons.mp h
    rw [fieldData, List.mapM_cons, hj, ih hfields, fieldDepth]
    simp only [Nat.max_le]
    by_cases hdepth : j.depth ≤ room
    · by_cases hrest : fieldDepth fields ≤ room
      · simp [hdepth, hrest]
      · simp [hdepth, hrest]
    · simp [hdepth]

end Nested

end UsageReports.Json
