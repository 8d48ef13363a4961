import UsageReports.Data.Keyed

/-!
# Lists with distinct keys

Putting an entry keeps the keys of a list distinct, and in a list with distinct keys the entry found
under a key is the only one it has. Such a list may be kept as a list of the entries in another
form, under the same keys.
-/

namespace UsageReports.Keyed

variable {α κ : Type} [DecidableEq κ]

/-- The keys after an entry was put: a new key stands at the end. -/
theorem keys_put (key : α → κ) (a : α) (entries : List α) :
    (put key a entries).map key =
      if key a ∈ entries.map key then entries.map key else entries.map key ++ [key a] := by
  induction entries with
  | nil => rfl
  | cons b rest ih =>
    rw [put]
    split
    · next h =>
      rw [List.map_cons, List.map_cons, ← h]
      exact (if_pos List.mem_cons_self).symm
    · next h =>
      rw [List.map_cons, ih, List.map_cons]
      by_cases hm : key a ∈ rest.map key
      · rw [if_pos hm, if_pos (List.mem_cons_of_mem _ hm)]
      · have hn : key a ∉ key b :: rest.map key := by
          intro he
          exact (List.mem_cons.mp he).elim (fun he ↦ h he.symm) hm
        rw [if_neg hm, if_neg hn, List.cons_append]

/-- Putting an entry keeps the keys distinct. -/
theorem nodup_put (key : α → κ) (a : α) {entries : List α} (h : (entries.map key).Nodup) :
    ((put key a entries).map key).Nodup := by
  rw [keys_put]
  split
  · exact h
  · next hm =>
    refine List.nodup_append.mpr ⟨h, List.pairwise_singleton _ _, ?_⟩
    intro x hx y hy he
    rw [he, List.mem_singleton.mp hy] at hx
    exact hm hx

/-- Under distinct keys an entry is found by its key. -/
theorem get?_eq_some_iff (key : α → κ) {entries : List α} (h : (entries.map key).Nodup) (k : κ)
    (a : α) : get? key k entries = some a ↔ a ∈ entries ∧ key a = k := by
  constructor
  · intro ha
    exact ⟨List.mem_of_find?_eq_some ha, by simpa using List.find?_some ha⟩
  · rintro ⟨hm, rfl⟩
    induction entries with
    | nil => exact absurd hm List.not_mem_nil
    | cons b rest ih =>
      obtain ⟨hb, hrest⟩ := List.nodup_cons.mp h
      rcases List.mem_cons.mp hm with rfl | hm
      · simp [get?]
      · have hne : key b ≠ key a := fun he ↦ hb (he ▸ List.mem_map_of_mem hm)
        rw [get?, List.find?_cons, decide_eq_false hne]
        exact ih hrest hm

/-- An entry is found under its own key. -/
theorem key_of_get? {key : α → κ} {entries : List α} {k : κ} {a : α}
    (h : get? key k entries = some a) : key a = k := by
  simpa using List.find?_some h

/-- After an entry was put the entries are that one and some of those before. -/
theorem mem_of_mem_put {key : α → κ} {a b : α} {entries : List α} (h : b ∈ put key a entries) :
    b = a ∨ b ∈ entries := by
  induction entries with
  | nil => exact Or.inl (List.mem_singleton.mp h)
  | cons c rest ih =>
    rw [put] at h
    split at h
    · exact (List.mem_cons.mp h).imp_right (List.mem_cons_of_mem c)
    · rcases List.mem_cons.mp h with rfl | h
      · exact Or.inr List.mem_cons_self
      · exact (ih h).imp_right (List.mem_cons_of_mem c)

/-- Removing an entry changes nothing under other keys. -/
theorem get?_erase_of_ne (key : α → κ) {k k' : κ} (h : k ≠ k') (entries : List α) :
    get? key k' (erase key k entries) = get? key k' entries := by
  rw [get?, get?, erase, List.find?_filter]
  congr 1
  funext b
  by_cases hb : key b = k'
  · simp [hb, h.symm]
  · simp [hb]

/-- Removing an entry keeps the keys distinct. -/
theorem nodup_erase (key : α → κ) (k : κ) {entries : List α} (h : (entries.map key).Nodup) :
    ((erase key k entries).map key).Nodup :=
  h.sublist (List.filter_sublist.map key)

/-- Where a key has no entry there is none to remove. -/
theorem erase_of_get?_eq_none {key : α → κ} {k : κ} {entries : List α}
    (h : get? key k entries = none) : erase key k entries = entries := by
  apply List.filter_eq_self.mpr
  intro a ha
  have hne := List.find?_eq_none.mp h a ha
  simpa using hne

/-- Putting an entry changes nothing about those with other keys. -/
theorem erase_put_self (key : α → κ) (a : α) (entries : List α) :
    erase key (key a) (put key a entries) = erase key (key a) entries := by
  induction entries with
  | nil => simp [erase, put]
  | cons b rest ih =>
    by_cases h : key b = key a
    · simp [erase, put, h]
    · rw [put, if_neg h, erase, List.filter_cons_of_pos (by simpa using h), ← erase, ih, erase,
        erase, List.filter_cons_of_pos (by simpa using h)]

/-- An entry with a new key stands at the end. -/
theorem put_of_get?_eq_none {key : α → κ} {a : α} {entries : List α}
    (h : get? key (key a) entries = none) : put key a entries = entries ++ [a] := by
  induction entries with
  | nil => rfl
  | cons b rest ih =>
    have hb : ¬ key b = key a := by simpa using List.find?_eq_none.mp h b List.mem_cons_self
    rw [put, if_neg hb, ih, List.cons_append]
    rwa [get?, List.find?_cons_of_neg (by simpa using hb)] at h

/-- Under distinct keys an entry stands at one place, where another one may be put or none. -/
theorem exists_split {key : α → κ} {entries : List α} {k : κ} {a : α}
    (hd : (entries.map key).Nodup) (h : get? key k entries = some a) :
    ∃ before after, entries = before ++ a :: after ∧
      (∀ b, key b = k → put key b entries = before ++ b :: after) ∧
      erase key k entries = before ++ after := by
  induction entries with
  | nil => contradiction
  | cons c rest ih =>
    obtain ⟨hc, hrest⟩ := List.nodup_cons.mp hd
    by_cases hk : key c = k
    · obtain rfl : c = a := by simpa [get?, hk] using h
      have hothers : ∀ b ∈ rest, (decide (key b ≠ k)) = true := by
        intro b hb
        exact decide_eq_true fun he ↦ hc (hk ▸ he ▸ List.mem_map_of_mem hb)
      refine ⟨[], rest, rfl, ?_, ?_⟩
      · intro b hb
        rw [put, if_pos (hk.trans hb.symm), List.nil_append]
      · rw [erase, List.filter_cons_of_neg (by simpa using hk), List.filter_eq_self.mpr hothers,
          List.nil_append]
    · rw [get?, List.find?_cons_of_neg (by simpa using hk)] at h
      obtain ⟨before, after, rfl, hput, herase⟩ := ih hrest h
      refine ⟨c :: before, after, rfl, ?_, ?_⟩
      · intro b hb
        rw [put, if_neg (fun he ↦ hk (he.trans hb)), hput b hb, List.cons_append]
      · rw [erase, List.filter_cons_of_pos (by simpa using hk), ← erase, herase, List.cons_append]

/-- After an entry was put the others have other keys. -/
theorem eq_or_ne_of_mem_put {key : α → κ} {a b : α} {entries : List α}
    (hd : (entries.map key).Nodup) (h : b ∈ put key a entries) :
    b = a ∨ b ∈ entries ∧ key b ≠ key a := by
  by_cases hk : key b = key a
  · have hb : get? key (key a) (put key a entries) = some b :=
      (get?_eq_some_iff key (nodup_put key a hd) (key a) b).mpr ⟨h, hk⟩
    rw [get?_put_self] at hb
    exact Or.inl (Option.some.inj hb).symm
  · exact Or.inr ⟨(mem_of_mem_put h).resolve_left fun he ↦ hk (congrArg key he), hk⟩

/-- Under distinct keys the entries are after one was put that one and those with other keys. -/
theorem mem_put_iff {key : α → κ} {a b : α} {entries : List α} (hd : (entries.map key).Nodup) :
    b ∈ put key a entries ↔ b = a ∨ b ∈ entries ∧ key b ≠ key a := by
  constructor
  · exact eq_or_ne_of_mem_put hd
  · have hput := get?_eq_some_iff key (nodup_put key a hd)
    rintro (rfl | ⟨hb, hne⟩)
    · exact ((hput _ _).mp (get?_put_self key b entries)).1
    · have hfound := (get?_eq_some_iff key hd (key b) b).mpr ⟨hb, rfl⟩
      rw [← get?_put_of_ne key (Ne.symm hne) entries] at hfound
      exact ((hput _ _).mp hfound).1

/-- Putting an entry in place of one that looks the same. -/
theorem map_put_of_eq {key : α → κ} {γ : Type} {f : α → γ} {a b : α} {entries : List α}
    (hd : (entries.map key).Nodup) (h : get? key (key b) entries = some a) (hf : f b = f a) :
    (put key b entries).map f = entries.map f := by
  obtain ⟨before, after, rfl, hput, -⟩ := exists_split hd h
  rw [hput b rfl, List.map_append, List.map_append, List.map_cons, List.map_cons, hf]

/-- An entry that is kept is still found. -/
theorem get?_filter {key : α → κ} {k : κ} {a : α} {entries : List α} {p : α → Bool}
    (h : get? key k entries = some a) (ha : p a = true) :
    get? key k (entries.filter p) = some a := by
  induction entries with
  | nil => contradiction
  | cons b rest ih =>
    by_cases hb : key b = k
    · obtain rfl : b = a := by simpa [get?, hb] using h
      rw [List.filter_cons_of_pos ha]
      simp [get?, hb]
    · rw [get?, List.find?_cons_of_neg (by simpa using hb)] at h
      have hrest := ih h
      rw [List.filter_cons]
      split
      · rw [get?, List.find?_cons_of_neg (by simpa using hb)]
        exact hrest
      · exact hrest

section Forms

variable {β κ' : Type} [DecidableEq κ'] {key : α → κ} {key' : β → κ'} {f : α → β}

/-- What is found among entries in another form, where a key finds the same in both. -/
theorem get?_map_of_iff {k : κ} {k' : κ'} {entries : List α}
    (h : ∀ a ∈ entries, key' (f a) = k' ↔ key a = k) :
    get? key' k' (entries.map f) = (get? key k entries).map f := by
  rw [get?, get?, List.find?_map]
  congr 1
  induction entries with
  | nil => rfl
  | cons a rest ih =>
    obtain ⟨ha, hrest⟩ := List.forall_mem_cons.mp h
    rw [List.find?_cons, List.find?_cons, ih hrest]
    simp only [Function.comp, ha]

/-- Putting an entry in another form, where it replaces the same in both. -/
theorem put_map_of_iff {a : α} {entries : List α}
    (h : ∀ b ∈ entries, key' (f b) = key' (f a) ↔ key b = key a) :
    put key' (f a) (entries.map f) = (put key a entries).map f := by
  induction entries with
  | nil => rfl
  | cons b rest ih =>
    obtain ⟨hb, hrest⟩ := List.forall_mem_cons.mp h
    simp only [List.map_cons, put, hb]
    split
    · rfl
    · rw [ih hrest, List.map_cons]

variable {key' : β → κ} (hf : ∀ a, key' (f a) = key a)
include hf

/-- What is found among entries in another form. -/
theorem get?_map (k : κ) (entries : List α) :
    get? key' k (entries.map f) = (get? key k entries).map f :=
  get?_map_of_iff fun a _ ↦ by rw [hf]

/-- Putting an entry in another form. -/
theorem put_map (a : α) (entries : List α) :
    put key' (f a) (entries.map f) = (put key a entries).map f :=
  put_map_of_iff fun b _ ↦ by rw [hf, hf]

/-- Removing an entry in another form. -/
theorem erase_map (k : κ) (entries : List α) :
    erase key' k (entries.map f) = (erase key k entries).map f := by
  rw [erase, erase, List.filter_map]
  congr 2
  funext a
  simp only [Function.comp, hf]

end Forms

/-- Entries in another form that each reads back as it was. -/
theorem mapM_map_of_ok {β ε : Type} {f : α → β} {read : β → Except ε α} {entries : List α}
    (h : ∀ a ∈ entries, read (f a) = .ok a) : (entries.map f).mapM read = .ok entries := by
  induction entries with
  | nil => rfl
  | cons a rest ih =>
    obtain ⟨ha, hrest⟩ := List.forall_mem_cons.mp h
    rw [List.map_cons, List.mapM_cons, ha, ih hrest]
    rfl

end UsageReports.Keyed
