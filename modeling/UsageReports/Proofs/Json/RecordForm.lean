import UsageReports.Proofs.Calendar.MonthGrammar
import UsageReports.Proofs.Json.Fields
import UsageReports.Record

/-!
# Records in JSON

A record is read back from its JSON form whatever order its fields stand in, unless its payload is
nested too deep. Only a payload that is null is lost: it is written, but read as missing, and the
month is no longer satisfied.
-/

namespace UsageReports.Record

open Json

/-- The fields of the JSON form. -/
def fields (r : Record) : List (String × Json) :=
  [("provider_id", .str r.provider), ("report_type", .str r.reportType),
    ("month", .str r.month.text), ("attempt_count", .int r.attempts)] ++
    (r.payload.map fun p ↦ ("payload", p)).toList ++
    (r.failure.map fun reason ↦ ("failure_reason", .str reason)).toList

/-- A record as it is read back from its JSON form. -/
def readBack (r : Record) : Record := { r with payload := nonNull r.payload }

section Fields

variable (r : Record)

theorem toJson_eq : r.toJson = object r.fields := rfl

theorem nodup_keys : (r.fields.map Prod.fst).Nodup := by
  obtain ⟨_, _, _, payload, failure, _⟩ := r
  cases payload <;> cases failure <;> simp [fields]

theorem lookup_payload : r.fields.lookup "payload" = r.payload := by
  obtain ⟨_, _, _, payload, failure, _⟩ := r
  cases payload <;> cases failure <;> rfl

theorem lookup_failure : r.fields.lookup "failure_reason" = r.failure.map .str := by
  obtain ⟨_, _, _, payload, failure, _⟩ := r
  cases payload <;> cases failure <;> rfl

end Fields

variable {r : Record}

/-- A table of the fields of a record is read as the record with what the payload is read as. -/
theorem ofData?_of_tabulates {R : Data → Json → Prop}
    (hR : ∀ d j, R d j → j.IsScalar → d = j.data) {d : Data} (h : Tabulates R d r.fields)
    (hmonth : Month.ofText r.month.text = .ok r.month) (hattempts : r.attempts ≤ maxUInt32) :
    ∃ fs : Data.Fields, Option.Rel R (fs.get? "payload") r.payload ∧
      ofData? d = (fs.optional "payload" (Json.ofData? (maxDepth - 1))).map
        fun payload ↦ { r with payload } := by
  obtain ⟨fs, hfields, hget⟩ := h.exists_fields r.nodup_keys fieldNames 3
  have hprovider : fs.required "provider_id" Data.text? = some r.provider := by
    rw [Data.Fields.required, get?_of_isScalar hR (hget "provider_id" (by decide)) trivial]
    rfl
  have htype : fs.required "report_type" Data.text? = some r.reportType := by
    rw [Data.Fields.required, get?_of_isScalar hR (hget "report_type" (by decide)) trivial]
    rfl
  have hmonth : fs.required "month" Data.month? = some r.month := by
    rw [Data.Fields.required, get?_of_isScalar hR (hget "month" (by decide)) trivial,
      Option.bind_some, data, Data.month?, hmonth]
    rfl
  have hattempts : fs.withDefault "attempt_count" 0 (Data.nat? maxUInt32) = some r.attempts := by
    rw [Data.Fields.withDefault, get?_of_isScalar hR (hget "attempt_count" (by decide)) trivial]
    simp [data, Data.nat?, hattempts]
  have hpayload := hget "payload" (by decide)
  have hfailure := hget "failure_reason" (by decide)
  rw [lookup_payload] at hpayload
  rw [lookup_failure] at hfailure
  refine ⟨fs, hpayload, ?_⟩
  rw [ofData?, hfields]
  simp only [Option.bind_eq_bind, Option.bind_some, hprovider, htype, hmonth, hattempts,
    optional_text? hR hfailure]
  cases fs.optional "payload" (Json.ofData? (maxDepth - 1)) <;> rfl

/-- Whatever stands for the JSON form of a record is read as what is left of the record. -/
theorem ofText?_of_encodes (hmonth : Month.ofText r.month.text = .ok r.month)
    (hattempts : r.attempts ≤ maxUInt32) {s : String} (h : Encodes s r.toJson) :
    ofText? s = some r.readBack := by
  rw [toJson_eq] at h
  obtain ⟨d, hdoc, htable⟩ := h.exists_tabulates r.nodup_keys
  obtain ⟨fs, hpayload, hread⟩ :=
    ofData?_of_tabulates (fun _ _ hd hj ↦ eq_data_of_isScalar hd hj) htable hmonth hattempts
  rw [ofText?, hdoc, Option.bind_some, hread, optional_of_value hpayload]
  rfl

/-- Each field is a text, the count, or the payload. -/
theorem value_of_mem_fields {f : String × Json} (hf : f ∈ r.fields) :
    (∃ s, f.2 = .str s) ∨ f.2 = .int r.attempts ∨ f.2 ∈ r.payload := by
  simp only [fields, List.mem_append, List.mem_cons, List.not_mem_nil, or_false,
    Option.mem_toList, Option.map_eq_some_iff] at hf
  rcases hf with ((rfl | rfl | rfl | rfl) | ⟨p, hp, rfl⟩) | ⟨reason, -, rfl⟩
  · exact .inl ⟨_, rfl⟩
  · exact .inl ⟨_, rfl⟩
  · exact .inl ⟨_, rfl⟩
  · exact .inr (.inl rfl)
  · exact .inr (.inr hp)
  · exact .inl ⟨_, rfl⟩

/-- The JSON form is readable if the payload is. -/
theorem readable_toJson (hattempts : r.attempts ≤ maxUInt32)
    (hpayload : ∀ p ∈ r.payload, p.Readable) : r.toJson.Readable := by
  rw [toJson_eq]
  refine Readable.object fun f hf ↦ ?_
  rcases value_of_mem_fields hf with ⟨s, hs⟩ | hn | hp
  · exact hs ▸ .str s
  · unfold maxUInt32 at hattempts
    exact hn ▸ .int (by unfold maxInt64; omega) (by unfold maxUInt64; omega)
  · exact hpayload _ hp

/-- The JSON form is nested one deeper than the payload. -/
theorem depth_toJson_le {room : Nat} (hpayload : ∀ p ∈ r.payload, p.depth ≤ room) :
    r.toJson.depth ≤ room + 1 := by
  rw [toJson_eq]
  refine depth_object_le fun f hf ↦ ?_
  rcases value_of_mem_fields hf with ⟨s, hs⟩ | hn | hp
  · simp [hs, depth]
  · simp [hn, depth]
  · exact hpayload _ hp

/-- The text of the JSON form is refused if the payload is nested too deep. -/
theorem ofText?_text (hmonth : Month.ofText r.month.text = .ok r.month)
    (hattempts : r.attempts ≤ maxUInt32) (hpayload : ∀ p ∈ r.payload, p.Readable) :
    ofText? r.toJson.text =
      if ∀ p ∈ r.payload, p.depth ≤ maxDepth - 1 then some r.readBack else none := by
  obtain ⟨fs, hget, hread⟩ := ofData?_of_tabulates (fun _ _ hd _ ↦ hd)
    (tabulates_data_object r.nodup_keys) hmonth hattempts
  rw [ofText?, (readable_toJson hattempts hpayload).document?_text, Option.bind_some, toJson_eq,
    hread, optional_of_data hget hpayload]
  split
  · rfl
  · rfl

/-! ### What is left of a record -/

theorem readBack_eq_self_iff : r.readBack = r ↔ r.payload ≠ some .null := by
  rw [← nonNull_eq_self_iff]
  obtain ⟨_, _, _, payload, _, _⟩ := r
  simp [readBack]

theorem isSatisfied_readBack : r.readBack.isSatisfied = true ↔
    r.isSatisfied = true ∧ r.payload ≠ some .null := by
  by_cases hnull : r.payload = some .null
  · simp [isSatisfied, readBack, hnull, nonNull]
  · rw [readBack_eq_self_iff.mpr hnull, and_iff_left hnull]

/-- A record of a month that can be read from a text is read back from its JSON form, unless its
payload is null or nested too deep. Where the payload is null the month is no longer satisfied, and
not a failure either. -/
theorem survives_json_unless_null (hmonth : ∃ s, Month.ofText s = .ok r.month)
    (hattempts : r.attempts ≤ maxUInt32) :
    (∀ s, Encodes s r.toJson → ofText? s = some r.readBack) ∧
    ((∀ p ∈ r.payload, p.Readable) → ofText? r.toJson.text =
      if ∀ p ∈ r.payload, p.depth ≤ maxDepth - 1 then some r.readBack else none) ∧
    (r.readBack = r ↔ r.payload ≠ some .null) ∧
    (r.readBack.isSatisfied = true ↔ r.isSatisfied = true ∧ r.payload ≠ some .null) ∧
    r.readBack.isFailure = r.isFailure ∧
    ∀ limit, r.readBack.isExhausted limit = r.isExhausted limit := by
  obtain ⟨s, hs⟩ := hmonth
  obtain ⟨hyear, hlast⟩ := Month.year_of_ofText hs
  have hmonth := Month.ofText_text hyear hlast
  exact ⟨fun s h ↦ ofText?_of_encodes hmonth hattempts h, ofText?_text hmonth hattempts,
    readBack_eq_self_iff, isSatisfied_readBack, rfl, fun _ ↦ rfl⟩

/-- A fetched month with a list as its payload, and a failed one. -/
theorem survives_json_unless_null_of_list :
    ofText? (success "p" "DR" { year := 2020, number := 1 } (.arr [.int 3, .null])).toJson.text =
      some (success "p" "DR" { year := 2020, number := 1 } (.arr [.int 3, .null])) ∧
    ofText? (placeholder "p" "DR" { year := 2020, number := 1 } "late").toJson.text =
      some (placeholder "p" "DR" { year := 2020, number := 1 } "late") := by
  have hmonth : ∃ s, Month.ofText s = .ok { year := 2020, number := 1 } :=
    ⟨_, Month.ofText_text (by decide) (by decide)⟩
  constructor
  · obtain ⟨-, hread, hback, -⟩ := survives_json_unless_null
      (r := success "p" "DR" { year := 2020, number := 1 } (.arr [.int 3, .null])) hmonth
      (by decide)
    have hreadable : (Json.arr [.int 3, .null]).Readable := by
      refine .arr fun j hj ↦ ?_
      simp only [List.mem_cons, List.not_mem_nil, or_false] at hj
      rcases hj with rfl | rfl
      · exact .int (by decide) (by decide)
      · exact .null
    rw [hread (by simpa [success] using hreadable), hback.mpr (by simp [success]), if_pos]
    simp [success, depth, itemDepth, maxDepth]
  · obtain ⟨hread, -, hback, -⟩ := survives_json_unless_null
      (r := placeholder "p" "DR" { year := 2020, number := 1 } "late") hmonth (by decide)
    rw [hread _ ?_, hback.mpr (by simp [placeholder])]
    have hreadable := readable_toJson
      (r := placeholder "p" "DR" { year := 2020, number := 1 } "late") (by decide)
      (by simp [placeholder])
    exact hreadable.encodes (depth_toJson_le (by simp [placeholder]))

/-- A fetched month that is not satisfied once it is read back. -/
theorem null_payload_lost :
    (success "p" "DR" { year := 2020, number := 1 } .null).isSatisfied = true ∧
    (ofText? (success "p" "DR" { year := 2020, number := 1 } .null).toJson.text).map isSatisfied =
      some false := by
  refine ⟨rfl, ?_⟩
  have hreadable : ∀ p ∈ some Json.null, p.Readable := by
    simpa using Readable.null
  rw [ofText?_text (Month.ofText_text (by decide) (by decide)) (by decide) hreadable, if_pos]
  · rfl
  · simp [success, depth]

end UsageReports.Record
