import UsageReports.Proofs.Data.SortedSet
import UsageReports.Proofs.Json.Quoted
import UsageReports.Proofs.Json.Number

/-!
# Documents written and read

The text of a value is a document that holds the tree of the value, if whole numbers fit 64 bits, the
keys of each object are in strict order, and doubles read back from their numerals. The value is then
read back unless lists and objects are nested too deep.
-/

namespace UsageReports.Json

/-- Whether a value is one that a document can hold and give back. -/
inductive Readable : Json → Prop
  | null : Readable .null
  | bool (b : Bool) : Readable (.bool b)
  | int {n : Int} (low : -maxInt64 - 1 ≤ n) (high : n ≤ maxUInt64) : Readable (.int n)
  | double {bits : UInt64} (back : ReadsBack bits) : Readable (.double bits)
  | str (s : String) : Readable (.str s)
  | arr {items : List Json} (all : ∀ j ∈ items, Readable j) : Readable (.arr items)
  | obj {fields : List (String × Json)} (sorted : fields.Pairwise fun a b ↦ a.1 < b.1)
      (all : ∀ f ∈ fields, Readable f.2) : Readable (.obj fields)

/-- Fields in the strict order of their keys are the fields of their object. -/
theorem object_of_sorted {fields : List (String × Json)}
    (h : fields.Pairwise fun a b ↦ a.1 < b.1) : object fields = .obj fields := by
  rw [object, sortedBy_eq_self]
  exact h.imp fun hab ↦ ⟨Std.le_of_lt hab, Std.ne_of_lt hab⟩

theorem mem_of_mem_sortedBy {fields : List (String × Json)} {f : String × Json}
    (h : f ∈ sortedBy Prod.fst fields) : f ∈ fields :=
  List.mem_mergeSort.mp (mem_of_mem_lastOfEach Prod.fst _ f h)

/-- An object is nested one deeper than its fields. -/
theorem depth_object_le {fields : List (String × Json)} {room : Nat}
    (h : ∀ f ∈ fields, f.2.depth ≤ room) : (object fields).depth ≤ room + 1 := by
  rw [object, depth]
  exact Nat.succ_le_succ (fieldDepth_le fun f hf ↦ h f (mem_of_mem_sortedBy hf))

namespace Readable

variable {j : Json} {fields : List (String × Json)} {room : Nat}

/-- An object is readable if its fields are. -/
theorem object (h : ∀ f ∈ fields, Readable f.2) : (object fields).Readable := by
  refine .obj ?_ fun f hf ↦ h f (mem_of_mem_sortedBy hf)
  exact (pairwise_sortedBy Prod.fst fields).imp fun hab ↦ Std.lt_of_le_of_ne hab.1 hab.2

/-- The tree of a value is read as the value where it may be nested so deep, and else refused. -/
theorem ofData?_data (h : j.Readable) :
    ofData? room j.data = if j.depth ≤ room then some j else none := by
  induction h generalizing room with
  | null | bool | int | double | str => exact ofData?_data_of_isScalar trivial
  | @arr items all ih =>
    cases room with
    | zero => simp [data, depth, ofData?]
    | succ room =>
      rw [data, ofData?, mapM_itemData fun j hj ↦ ih j hj, depth]
      simp only [Nat.succ_le_succ_iff]
      split
      · rfl
      · rfl
  | @obj fields sorted all ih =>
    cases room with
    | zero => simp [data, depth, ofData?]
    | succ room =>
      rw [data, ofData?, mapM_fieldData fun f hf ↦ ih f hf, depth]
      simp only [Nat.succ_le_succ_iff]
      split
      · rw [Option.map_some, object_of_sorted sorted]
      · rfl

/-- Every value starts with a character that is no blank and closes nothing. -/
theorem exists_cons (h : j.Readable) :
    ∃ c cs, j.chars = c :: cs ∧ isSpace c = false ∧ c ≠ ']' := by
  have hdenotes {cs : List Char} {d : Data} (h : Denotes cs d) :
      ∃ c r, cs = c :: r ∧ isSpace c = false ∧ c ≠ ']' := by
    obtain ⟨c, r, hcs, hc | rfl⟩ := h.exists_cons
    · exact ⟨c, r, hcs, not_isSpace_of_isDigit hc, ne_of_isDigit hc rfl⟩
    · exact ⟨_, r, hcs, rfl, by decide⟩
  cases h with
  | null => exact ⟨'n', ['u', 'l', 'l'], by rw [chars], rfl, by decide⟩
  | bool b =>
    cases b
    · exact ⟨'f', ['a', 'l', 's', 'e'], by rw [chars], rfl, by decide⟩
    · exact ⟨'t', ['r', 'u', 'e'], by rw [chars], rfl, by decide⟩
  | int low high =>
    rw [chars]
    exact hdenotes (denotes_decimal low high)
  | double back =>
    rw [chars]
    exact hdenotes back.denotes
  | str s => exact ⟨'"', s.toList.flatMap escapeChar ++ ['"'], by rw [chars]; rfl, rfl, by decide⟩
  | @arr items _ => exact ⟨'[', itemChars items, by rw [chars], rfl, by decide⟩
  | @obj fields _ _ => exact ⟨'{', fieldChars fields, by rw [chars], rfl, by decide⟩

end Readable

/-! ### The text of lists and objects -/

section Text

variable {j : Json} {items : List Json} {k : String} {fields : List (String × Json)}

theorem itemChars_singleton : itemChars [j] = j.chars ++ [']'] := by
  rw [itemChars]

theorem itemChars_cons (hne : items ≠ []) :
    itemChars (j :: items) = j.chars ++ ',' :: itemChars items := by
  rw [itemChars]
  exact hne

theorem fieldChars_singleton : fieldChars [(k, j)] = quoted k ++ ':' :: (j.chars ++ ['}']) := by
  rw [fieldChars, List.append_assoc, List.cons_append]

theorem fieldChars_cons (hne : fields ≠ []) : fieldChars ((k, j) :: fields) =
    quoted k ++ ':' :: (j.chars ++ ',' :: fieldChars fields) := by
  rw [fieldChars, List.append_assoc, List.cons_append]
  exact hne

end Text

/-! ### What stands around values -/

/-- Whether the text of a value is read as its tree, wherever it stands in a document. -/
def Reads (j : Json) : Prop :=
  ∀ fuel rest, j.chars.length ≤ fuel → EndsNumeral rest →
    value? fuel (j.chars ++ rest) = some (j.data, rest)

section Around

variable {c : Char} {cs rest : List Char} {fuel : Nat}

theorem endsNumeral_nil : EndsNumeral [] := by
  simp [EndsNumeral]

theorem endsNumeral_comma : EndsNumeral (',' :: rest) := by
  simp [EndsNumeral]

theorem endsNumeral_bracket : EndsNumeral (']' :: rest) := by
  simp [EndsNumeral]

theorem endsNumeral_brace : EndsNumeral ('}' :: rest) := by
  simp [EndsNumeral]

theorem value?_quote (cs : List Char) : value? (fuel + 1) ('"' :: cs) =
    (textUnits cs).bind fun p ↦
      match chars? p.1 with
      | some cs => some (.text (String.ofList cs), p.2)
      | none => some (.unusable, p.2) := rfl

theorem value?_quoted (s : String) :
    value? (fuel + 1) (quoted s ++ rest) = some (.text s, rest) := by
  obtain ⟨us, hchars, hread⟩ := exists_textUnits s.toList
  have hquoted : quoted s ++ rest = '"' :: (s.toList.flatMap escapeChar ++ '"' :: rest) := by
    simp [quoted]
  rw [hquoted, value?_quote, hread, Option.bind_some, hchars]
  simp only [String.ofList_toList]

theorem value?_bracket (cs : List Char) : value? (fuel + 1) ('[' :: cs) =
    match cs.dropWhile isSpace with
    | ']' :: rest => some (.list [], rest)
    | rest => (items? fuel rest).map fun p ↦ (.list p.1, p.2) := rfl

theorem value?_list (hc : isSpace c = false) (hclose : c ≠ ']') :
    value? (fuel + 1) ('[' :: c :: cs) = (items? fuel (c :: cs)).map fun p ↦ (.list p.1, p.2) := by
  rw [value?_bracket, List.dropWhile_cons_of_neg (by simp [hc])]
  split
  · next heq => exact absurd (List.cons.inj heq).1 hclose
  · rfl

theorem items?_succ (fuel : Nat) (cs : List Char) : items? (fuel + 1) cs =
    (value? fuel cs).bind fun p ↦
      match p.2.dropWhile isSpace with
      | ',' :: rest => (items? fuel rest).bind fun q ↦ some (p.1 :: q.1, q.2)
      | ']' :: rest => some ([p.1], rest)
      | _ => none := by
  rw [items?]
  rfl

theorem entries?_quoted (k : String) : entries? (fuel + 1) (quoted k ++ ':' :: cs) =
    (value? fuel cs).bind fun p ↦
      match p.2.dropWhile isSpace with
      | ',' :: rest => (entries? fuel rest).bind fun q ↦ some ((some k, p.1) :: q.1, q.2)
      | '}' :: rest => some ([(some k, p.1)], rest)
      | _ => none := by
  obtain ⟨us, hchars, hread⟩ := exists_textUnits k.toList
  have hquoted : quoted k ++ ':' :: cs =
      '"' :: (k.toList.flatMap escapeChar ++ '"' :: ':' :: cs) := by
    simp [quoted]
  have hkey : (chars? us).map String.ofList = some k := by
    rw [hchars, Option.map_some, String.ofList_toList]
  rw [hquoted, ← hkey, entries?, List.dropWhile_cons_of_neg (by decide)]
  simp only [hread]
  rfl

/-- Entries whose keys are all texts. -/
theorem mapM_textKeys (es : List (String × Data)) :
    (es.map fun e ↦ (some e.1, e.2)).mapM (fun (k, d) ↦ k.map (·, d)) = some es := by
  induction es with
  | nil => rfl
  | cons e es ih =>
    rw [List.map_cons, List.mapM_cons, ih]
    rfl

theorem tableOf_map (es : List (String × Data)) :
    tableOf (es.map fun e ↦ (some e.1, e.2)) = .table es := by
  rw [tableOf, mapM_textKeys]

/-! ### Lists and objects -/

/-- The items of a list are read up to its closing bracket. -/
theorem items?_itemChars {items : List Json} (hne : items ≠ []) (h : ∀ j ∈ items, Reads j)
    (hfuel : (itemChars items).length ≤ fuel) :
    items? fuel (itemChars items ++ rest) = some (itemData items, rest) := by
  induction items generalizing fuel with
  | nil => exact absurd rfl hne
  | cons j items ih =>
    obtain ⟨hj, hitems⟩ := List.forall_mem_cons.mp h
    rcases eq_or_ne items [] with rfl | hne
    · rw [itemChars_singleton] at hfuel ⊢
      rw [List.length_append, List.length_singleton] at hfuel
      obtain ⟨fuel, rfl⟩ : ∃ n, fuel = n + 1 := ⟨fuel - 1, by omega⟩
      have hread := hj fuel (']' :: rest) (by omega) endsNumeral_bracket
      rw [List.append_assoc, List.singleton_append, items?_succ, hread]
      rfl
    · rw [itemChars_cons hne] at hfuel ⊢
      rw [List.length_append, List.length_cons] at hfuel
      obtain ⟨fuel, rfl⟩ : ∃ n, fuel = n + 1 := ⟨fuel - 1, by omega⟩
      have hreads : items? fuel (itemChars items ++ rest) = some (itemData items, rest) :=
        ih hne hitems (by omega)
      have hread := hj fuel (',' :: (itemChars items ++ rest)) (by omega) endsNumeral_comma
      rw [List.append_assoc, List.cons_append, items?_succ, hread, Option.bind_some]
      simp only [List.dropWhile_cons_of_neg (show ¬ isSpace ',' = true by decide), hreads]
      rfl

/-- The fields of an object are read up to its closing brace. -/
theorem entries?_fieldChars {fields : List (String × Json)} (hne : fields ≠ [])
    (h : ∀ f ∈ fields, Reads f.2) (hfuel : (fieldChars fields).length ≤ fuel) :
    entries? fuel (fieldChars fields ++ rest) =
      some ((fieldData fields).map fun e ↦ (some e.1, e.2), rest) := by
  induction fields generalizing fuel with
  | nil => exact absurd rfl hne
  | cons f fields ih =>
    obtain ⟨k, j⟩ := f
    obtain ⟨hj, hfields⟩ : Reads j ∧ ∀ f ∈ fields, Reads f.2 := List.forall_mem_cons.mp h
    rcases eq_or_ne fields [] with rfl | hne
    · rw [fieldChars_singleton] at hfuel ⊢
      simp only [List.length_append, List.length_cons, List.length_nil] at hfuel
      obtain ⟨fuel, rfl⟩ : ∃ n, fuel = n + 1 := ⟨fuel - 1, by omega⟩
      have hread := hj fuel ('}' :: rest) (by omega) endsNumeral_brace
      simp only [List.append_assoc, List.cons_append, List.nil_append, entries?_quoted, hread]
      rfl
    · rw [fieldChars_cons hne] at hfuel ⊢
      simp only [List.length_append, List.length_cons] at hfuel
      obtain ⟨fuel, rfl⟩ : ∃ n, fuel = n + 1 := ⟨fuel - 1, by omega⟩
      have hreads : entries? fuel (fieldChars fields ++ rest) =
          some ((fieldData fields).map fun e ↦ (some e.1, e.2), rest) := ih hne hfields (by omega)
      have hread := hj fuel (',' :: (fieldChars fields ++ rest)) (by omega) endsNumeral_comma
      simp only [List.append_assoc, List.cons_append, entries?_quoted, hread, Option.bind_some,
        List.dropWhile_cons_of_neg (show ¬ isSpace ',' = true by decide), hreads]
      rfl

end Around

/-! ### Values and documents -/

namespace Readable

variable {j : Json} {items : List Json} {fields : List (String × Json)}

theorem reads_of_succ (hj : j.Readable)
    (h : ∀ fuel rest, j.chars.length ≤ fuel + 1 → EndsNumeral rest →
      value? (fuel + 1) (j.chars ++ rest) = some (j.data, rest)) : Reads j := by
  intro fuel rest hfuel hrest
  obtain ⟨fuel, rfl⟩ : ∃ n, fuel = n + 1 := by
    obtain ⟨c, cs, hchars, -⟩ := hj.exists_cons
    rw [hchars, List.length_cons] at hfuel
    exact ⟨fuel - 1, by omega⟩
  exact h fuel rest hfuel hrest

theorem reads_arr (hitems : ∀ j ∈ items, j.Readable) (h : ∀ j ∈ items, Reads j) :
    Reads (.arr items) := by
  refine reads_of_succ (.arr hitems) fun fuel rest hfuel _ ↦ ?_
  rw [chars, List.length_cons] at hfuel
  rw [chars, data, List.cons_append]
  cases items with
  | nil =>
    rw [itemChars, itemData]
    rfl
  | cons j items =>
    have hread : Json.items? fuel (itemChars (j :: items) ++ rest) =
        some (itemData (j :: items), rest) :=
      items?_itemChars (List.cons_ne_nil j items) h (Nat.le_of_succ_le_succ hfuel)
    obtain ⟨c, cs, hcs, hspace, hclose⟩ : ∃ c cs, itemChars (j :: items) = c :: cs ∧
        isSpace c = false ∧ c ≠ ']' := by
      obtain ⟨c, cs, hchars, hc⟩ := (hitems j List.mem_cons_self).exists_cons
      rcases eq_or_ne items [] with rfl | hne
      · exact ⟨c, cs ++ [']'], by rw [itemChars_singleton, hchars, List.cons_append], hc⟩
      · exact ⟨c, _, by rw [itemChars_cons hne, hchars, List.cons_append], hc⟩
    rw [hcs, List.cons_append] at hread ⊢
    rw [value?_list hspace hclose, hread, Option.map_some]

theorem reads_obj (hfields : (Json.obj fields).Readable) (h : ∀ f ∈ fields, Reads f.2) :
    Reads (.obj fields) := by
  refine reads_of_succ hfields fun fuel rest hfuel _ ↦ ?_
  rw [chars, List.length_cons] at hfuel
  rw [chars, data, List.cons_append]
  cases fields with
  | nil =>
    rw [fieldChars, fieldData]
    rfl
  | cons f fields =>
    have hread : Json.entries? fuel (fieldChars (f :: fields) ++ rest) =
        some ((fieldData (f :: fields)).map fun e ↦ (some e.1, e.2), rest) :=
      entries?_fieldChars (List.cons_ne_nil f fields) h (Nat.le_of_succ_le_succ hfuel)
    obtain ⟨cs, hcs⟩ : ∃ cs, fieldChars (f :: fields) = '"' :: cs := by
      rcases eq_or_ne fields [] with rfl | hne
      · exact ⟨_, fieldChars_singleton⟩
      · exact ⟨_, fieldChars_cons hne⟩
    have hvalue (cs : List Char) : value? (fuel + 1) ('{' :: '"' :: cs) =
        (entries? fuel ('"' :: cs)).map fun p ↦ (tableOf p.1, p.2) := rfl
    rw [hcs, List.cons_append] at hread ⊢
    rw [hvalue, hread, Option.map_some, tableOf_map]

/-- The text of a value is read as its tree. -/
theorem reads (h : j.Readable) : Reads j := by
  induction h with
  | null => exact reads_of_succ .null fun fuel rest _ _ ↦ by rw [chars, data]; rfl
  | bool b =>
    refine reads_of_succ (.bool b) fun fuel rest _ _ ↦ ?_
    cases b
    · rw [chars, data]
      rfl
    · rw [chars, data]
      rfl
  | int low high =>
    refine reads_of_succ (.int low high) fun fuel rest _ hrest ↦ ?_
    rw [chars, data]
    exact (denotes_decimal low high).value? hrest
  | double back =>
    refine reads_of_succ (.double back) fun fuel rest _ hrest ↦ ?_
    rw [chars, data]
    exact back.denotes.value? hrest
  | str s =>
    refine reads_of_succ (.str s) fun fuel rest _ _ ↦ ?_
    rw [chars, data]
    exact value?_quoted s
  | arr all ih => exact reads_arr all ih
  | obj sorted all ih => exact reads_obj (.obj sorted all) ih

/-- The text of a value is a document of its tree. -/
theorem document?_text (h : j.Readable) : document? j.text = some j.data := by
  have hread := h.reads (j.chars.length + 1) [] (Nat.le_succ _) endsNumeral_nil
  have htext : j.text.toList = j.chars := String.toList_ofList
  rw [List.append_nil] at hread
  simp only [document?, htext, hread]
  rfl

/-- A value reads back from its text unless it is nested too deep. -/
theorem ofText?_text (h : j.Readable) :
    ofText? j.text = if j.depth ≤ maxDepth then some j else none := by
  rw [ofText?, h.document?_text, Option.bind_some, h.ofData?_data]

end Readable

end UsageReports.Json
