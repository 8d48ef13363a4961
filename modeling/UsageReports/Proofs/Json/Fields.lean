import Mathlib.Data.List.Forall2
import Mathlib.Data.List.Nodup
import UsageReports.Proofs.Json.Document

/-!
# Objects read as structures

A structure takes its fields from the entries of a table, in whatever order they stand, if no key
occurs twice. An optional field is missing where its value is null. The data of a field stands for its
value in one of two ways: it is the tree of the value, or it is read as the value; the lemmas on
scalars hold for both.
-/

namespace UsageReports.Json

/-! ### Entries with distinct keys -/

section Lookup

variable {β : Type} {entries others : List (String × β)} {k : String} {b : β}

theorem lookup_eq_some_iff_mem (hd : (entries.map Prod.fst).Nodup) :
    entries.lookup k = some b ↔ (k, b) ∈ entries := by
  induction entries with
  | nil => simp
  | cons e entries ih =>
    obtain ⟨k', b'⟩ := e
    obtain ⟨hnot, hd⟩ := List.nodup_cons.mp hd
    rw [List.lookup_cons, List.mem_cons]
    split
    · next heq =>
      rw [beq_iff_eq] at heq
      subst heq
      constructor
      · intro h
        exact .inl (by rw [Option.some.inj h])
      · rintro (h | h)
        · rw [(Prod.mk.inj h).2]
        · exact absurd (List.mem_map_of_mem h) hnot
    · next hne =>
      rw [beq_eq_false_iff_ne] at hne
      rw [ih hd]
      constructor
      · exact .inr
      · exact fun h ↦ h.resolve_left fun he ↦ hne (Prod.mk.inj he).1

/-- Where entries stand does not matter. -/
theorem lookup_eq_of_perm (hd : (entries.map Prod.fst).Nodup) (hp : entries.Perm others) :
    entries.lookup k = others.lookup k := by
  apply Option.ext
  intro b
  rw [lookup_eq_some_iff_mem hd, lookup_eq_some_iff_mem ((hp.map Prod.fst).nodup hd), hp.mem_iff]

/-- Entries with other keys do not matter. -/
theorem lookup_filter (hd : (entries.map Prod.fst).Nodup) {p : String × β → Bool}
    (hp : ∀ b, p (k, b) = true) : (entries.filter p).lookup k = entries.lookup k := by
  have hd' : ((entries.filter p).map Prod.fst).Nodup := (List.filter_sublist.map Prod.fst).nodup hd
  apply Option.ext
  intro b
  rw [lookup_eq_some_iff_mem hd', lookup_eq_some_iff_mem hd, List.mem_filter, hp, eq_self, and_true]

theorem fieldsDistinct_of_nodup {entries : List (String × Data)}
    (hd : (entries.map Prod.fst).Nodup) (names : List String) :
    Data.fieldsDistinct names entries = true := by
  refine List.all_eq_true.mpr fun name _ ↦ ?_
  have hcount : (entries.filter (·.1 = name)).length = (entries.map Prod.fst).count name := by
    rw [List.count_eq_length_filter, List.filter_map, List.length_map]
    congr 2
  rw [decide_eq_true_iff, hcount]
  exact List.nodup_iff_count_le_one.mp hd name

end Lookup

/-! ### Tables of fields -/

/-- Whether data is a table of the given fields, in any order, each with data that stands for its
value. -/
def Tabulates (R : Data → Json → Prop) (d : Data) (fields : List (String × Json)) : Prop :=
  ∃ es others, d = .table es ∧ es.Forall₂ (fun e f ↦ e.1 = f.1 ∧ R e.2 f.2) others ∧
    others.Perm fields

section Tables

variable {R : Data → Json → Prop} {d : Data} {es : List (String × Data)}
  {fields : List (String × Json)} {room : Nat} {s : String}

theorem keys_of_forall₂
    (h : List.Forall₂ (fun e f ↦ e.1 = f.1 ∧ R e.2 f.2) es fields) :
    es.map Prod.fst = fields.map Prod.fst := by
  induction h with
  | nil => rfl
  | cons he _ ih => rw [List.map_cons, List.map_cons, he.1, ih]

theorem lookup_of_forall₂
    (h : List.Forall₂ (fun e f ↦ e.1 = f.1 ∧ R e.2 f.2) es fields) (name : String) :
    Option.Rel R (es.lookup name) (fields.lookup name) := by
  induction h with
  | nil => exact .none
  | cons he _ ih =>
    rw [List.lookup_cons, List.lookup_cons, he.1]
    split
    · exact .some he.2
    · exact ih

/-- The fields of a structure are found in a table of fields with distinct keys. -/
theorem Tabulates.exists_fields (h : Tabulates R d fields) (hd : (fields.map Prod.fst).Nodup)
    (names : List String) (optional : Nat) :
    ∃ fs, d.fields? names optional = some fs ∧
      ∀ name ∈ names, Option.Rel R (fs.get? name) (fields.lookup name) := by
  obtain ⟨es, others, rfl, hall, hperm⟩ := h
  have hkeys : (es.map Prod.fst).Nodup := by
    rw [keys_of_forall₂ hall]
    exact (hperm.map Prod.fst).nodup_iff.mpr hd
  refine ⟨⟨es.filter (names.contains ·.1)⟩, ?_, fun name hname ↦ ?_⟩
  · rw [Data.fields?, if_pos (fieldsDistinct_of_nodup hkeys names)]
  · have hfilter : (es.filter (names.contains ·.1)).lookup name = es.lookup name :=
      lookup_filter hkeys fun _ ↦ List.contains_iff_mem.mpr hname
    rw [Data.Fields.get?, hfilter, lookup_eq_of_perm hd hperm.symm]
    exact lookup_of_forall₂ hall name

theorem forall₂_fieldData (fields : List (String × Json)) :
    List.Forall₂ (fun e f ↦ e.1 = f.1 ∧ e.2 = f.2.data) (fieldData fields) fields := by
  induction fields with
  | nil => exact .nil
  | cons f fields ih => exact .cons ⟨rfl, rfl⟩ ih

/-- The tree of an object is a table of its fields. -/
theorem tabulates_data_object (hd : (fields.map Prod.fst).Nodup) :
    Tabulates (fun d j ↦ d = j.data) (object fields).data fields := by
  refine ⟨_, sortedBy Prod.fst fields, by rw [object, data], forall₂_fieldData _, ?_⟩
  rw [sortedBy_eq_mergeSort Prod.fst hd]
  exact List.mergeSort_perm _ _

theorem forall₂_of_mapM (h : es.mapM (fun e ↦ (ofData? room e.2).map (e.1, ·)) = some fields) :
    List.Forall₂ (fun e f ↦ e.1 = f.1 ∧ ofData? room e.2 = some f.2) es fields := by
  induction es generalizing fields with
  | nil =>
    rw [← Option.some.inj h]
    exact .nil
  | cons e es ih =>
    rw [List.mapM_cons] at h
    obtain ⟨f, hf, h⟩ := Option.bind_eq_some_iff.mp h
    obtain ⟨fs, hfs, h⟩ := Option.bind_eq_some_iff.mp h
    obtain ⟨j, hj, rfl⟩ := Option.map_eq_some_iff.mp hf
    rw [← Option.some.inj h]
    exact .cons ⟨rfl, hj⟩ (ih hfs)

/-- Whether a text is a document of an object that names each key once, in any order. -/
def Encodes (s : String) (j : Json) : Prop :=
  ∃ es : List (String × Data), document? s = some (.table es) ∧ (es.map Prod.fst).Nodup ∧
    ofData? maxDepth (.table es) = some j

/-- The text of an object that is not nested too deep is a document of it. -/
theorem Readable.encodes (h : (Json.obj fields).Readable)
    (hdepth : (Json.obj fields).depth ≤ maxDepth) :
    Encodes (Json.obj fields).text (.obj fields) := by
  have hvalue : ofData? maxDepth (Json.obj fields).data = some (.obj fields) := by
    rw [h.ofData?_data, if_pos hdepth]
  have hdoc := h.document?_text
  rw [data] at hvalue hdoc
  refine ⟨fieldData fields, hdoc, ?_, hvalue⟩
  rw [keys_of_forall₂ (R := fun d j ↦ d = j.data) (forall₂_fieldData fields)]
  cases h with
  | obj sorted _ => exact List.pairwise_map.mpr (sorted.imp Std.ne_of_lt)

/-- What a document of an object holds is a table of its fields. -/
theorem Encodes.exists_tabulates (h : Encodes s (object fields))
    (hd : (fields.map Prod.fst).Nodup) :
    ∃ d, document? s = some d ∧
      Tabulates (fun d j ↦ ofData? (maxDepth - 1) d = some j) d fields := by
  obtain ⟨es, hdoc, hkeys, hvalue⟩ := h
  rw [maxDepth, ofData?] at hvalue
  obtain ⟨others, hothers, hobject⟩ := Option.map_eq_some_iff.mp hvalue
  have hall := forall₂_of_mapM hothers
  refine ⟨.table es, hdoc, es, others, rfl, hall, ?_⟩
  have hothersKeys : (others.map Prod.fst).Nodup := by
    rwa [← keys_of_forall₂ (R := fun d j ↦ ofData? (maxDepth - 1) d = some j) hall]
  have hsorted := Json.obj.inj hobject
  rw [sortedBy_eq_mergeSort _ hothersKeys, sortedBy_eq_mergeSort _ hd] at hsorted
  have hperm := List.mergeSort_perm others fun a b ↦ a.1 ≤ b.1
  rw [hsorted] at hperm
  exact hperm.symm.trans (List.mergeSort_perm _ _)

end Tables

/-! ### What a structure reads from a field -/

/-- What is left of a field that may be null. -/
def nonNull : Option Json → Option Json
  | some .null => none
  | v => v

theorem nonNull_eq_self_iff {v : Option Json} : nonNull v = v ↔ v ≠ some .null := by
  unfold nonNull
  split
  · simp
  · next hne => simpa using hne

section Readers

variable {fs : Data.Fields} {name : String} {room : Nat}

theorem optional_of_none {α : Type} {read : Data → Option α} (h : fs.get? name = none) :
    fs.optional name read = some none := by
  rw [Data.Fields.optional, h]

theorem optional_of_ne_null {α : Type} {read : Data → Option α} {d : Data}
    (h : fs.get? name = some d) (hd : d ≠ .null) :
    fs.optional name read = (read d).map some := by
  rw [Data.Fields.optional, h]
  cases d with
  | null => exact absurd rfl hd
  | bool | int | double | text | list | table | unusable => rfl

/-- An optional field is either read as missing, or its data is read. -/
theorem optional_cases {α : Type} {R : Data → Json → Prop} {v : Option Json}
    (h : Option.Rel R (fs.get? name) v) (hnull : ∀ d j, R d j → (d = .null ↔ j = .null))
    (read : Data → Option α) :
    ((v = none ∨ v = some .null) ∧ fs.optional name read = some none) ∨
    ∃ d j, v = some j ∧ j ≠ .null ∧ R d j ∧ fs.optional name read = (read d).map some := by
  generalize hget : fs.get? name = found at h
  cases h with
  | none => exact .inl ⟨.inl rfl, optional_of_none hget⟩
  | @some d j hd =>
    by_cases hj : j = .null
    · refine .inl ⟨.inr (congrArg some hj), ?_⟩
      rw [Data.Fields.optional, hget, (hnull d j hd).mpr hj]
    · have hne : d ≠ .null := mt (hnull d j hd).mp hj
      exact .inr ⟨d, j, rfl, hj, hd, optional_of_ne_null hget hne⟩

/-- A field that holds the tree of a value: null is read as missing, and what is nested too deep is
refused. -/
theorem optional_of_data {v : Option Json}
    (h : Option.Rel (fun d j ↦ d = j.data) (fs.get? name) v) (hv : ∀ j ∈ v, j.Readable) :
    fs.optional name (ofData? room) =
      if ∀ j ∈ v, j.depth ≤ room then some (nonNull v) else none := by
  have hnull (d : Data) (j : Json) (hd : d = j.data) : d = .null ↔ j = .null := by
    rw [hd, data_eq_null_iff]
  rcases optional_cases h hnull (ofData? room) with
    ⟨rfl | rfl, hread⟩ | ⟨d, j, rfl, hne, rfl, hread⟩
  · rw [hread, if_pos (by simp)]
    rfl
  · rw [hread, if_pos (by simp [depth])]
    rfl
  · simp only [Option.mem_some_iff, forall_eq'] at hv ⊢
    rw [hread, hv.ofData?_data, nonNull_eq_self_iff.mpr (by simpa using hne)]
    split
    · rfl
    · rfl

/-- A field that holds data of a value. -/
theorem optional_of_value {v : Option Json}
    (h : Option.Rel (fun d j ↦ ofData? room d = some j) (fs.get? name) v) :
    fs.optional name (ofData? room) = some (nonNull v) := by
  have hnull (d : Data) (j : Json) (hd : ofData? room d = some j) : d = .null ↔ j = .null := by
    constructor
    · rintro rfl
      rw [ofData?] at hd
      exact (Option.some.inj hd).symm
    · rintro rfl
      exact eq_data_of_isScalar hd trivial
  rcases optional_cases h hnull (ofData? room) with
    ⟨rfl | rfl, hread⟩ | ⟨d, j, rfl, hne, hd, hread⟩
  · exact hread
  · exact hread
  · rw [hread, hd, nonNull_eq_self_iff.mpr (by simpa using hne)]
    rfl

variable {R : Data → Json → Prop} (hR : ∀ d j, R d j → j.IsScalar → d = j.data)
include hR

theorem get?_of_isScalar {j : Json} (h : Option.Rel R (fs.get? name) (some j))
    (hj : j.IsScalar) : fs.get? name = some j.data := by
  generalize hget : fs.get? name = found at h
  cases h with
  | some hd => rw [hR _ _ hd hj]

/-- A field of a text that may be missing. -/
theorem optional_text? {v : Option String}
    (h : Option.Rel R (fs.get? name) (v.map Json.str)) :
    fs.optional name Data.text? = some v := by
  cases v with
  | none =>
    generalize hget : fs.get? name = found at h
    cases h
    exact optional_of_none hget
  | some s =>
    rw [optional_of_ne_null (get?_of_isScalar hR h trivial) (by simp [data])]
    rfl

end Readers

end UsageReports.Json
