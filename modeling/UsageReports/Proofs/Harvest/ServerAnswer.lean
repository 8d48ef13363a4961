import UsageReports.Harvest.HttpSource
import UsageReports.Proofs.Harvest.Accepting

/-!
# What a server answers

Every answer that a fetch over HTTP may get is one of four kinds: it asks to slow down, it refuses
the report, it delivers the report, or it is a failure. A delivered report is split into the months
of the range without loss, and a run emits what it is split into.
-/

namespace UsageReports

namespace HttpReport

/-- Whether a report is there to slow its reader down. -/
def SlowsDown (r : HttpReport) : Prop := ∃ e ∈ r.exceptions, e.code = 1020

/-- Whether a report holds nothing but exceptions, and none that slows its reader down. -/
def OnlyExcuses (r : HttpReport) : Prop := r.items = [] ∧ r.exceptions ≠ [] ∧ ¬ r.SlowsDown

/-- Whether a report has something to say of its months, be it that there is nothing. -/
def Tells (r : HttpReport) : Prop := ¬ r.SlowsDown ∧ (r.items ≠ [] ∨ r.exceptions = [])

variable {r : HttpReport} (provider : String) (range : Range)

theorem any_slowDown_iff :
    (r.exceptions.any (·.code = ReportException.slowDown)) = true ↔ r.SlowsDown := by
  simp only [List.any_eq_true, decide_eq_true_eq]
  exact Iff.rfl

theorem result_of_slowsDown (h : r.SlowsDown) :
    r.result provider range = .error .rateLimited := by
  rw [result, if_pos (any_slowDown_iff.mpr h)]

theorem result_of_onlyExcuses (h : r.OnlyExcuses) :
    ∃ reason, r.result provider range = .error (.invalidReport reason) := by
  obtain ⟨hitems, hexceptions, hslow⟩ := h
  rw [result, if_neg (any_slowDown_iff.not.mpr hslow)]
  simp [hitems, hexceptions]

theorem result_of_tells (h : r.Tells) :
    r.result provider range = .ok (r.records provider range) := by
  obtain ⟨hslow, hsome⟩ := h
  rw [result, if_neg (any_slowDown_iff.not.mpr hslow), if_neg]
  simpa using fun hitems ↦ hsome.resolve_left (not_not_intro hitems)

/-- Every report is of one of three kinds. -/
theorem slowsDown_or_onlyExcuses_or_tells (r : HttpReport) :
    r.SlowsDown ∨ r.OnlyExcuses ∨ r.Tells := by
  unfold OnlyExcuses Tells
  tauto

end HttpReport

/-! ### Kinds of answers, as they are read in some character sets -/

namespace Answer

variable (a : Answer) (charsets : Charsets)

/-- Whether an answer brings a report of which something holds. -/
def Brings (holds : HttpReport → Prop) : Prop :=
  (200 ≤ a.status ∧ a.status < 300) ∧
    ∃ report, HttpReport.ofText? (a.text charsets) = some report ∧ holds report

/-- Whether an answer asks to slow down. -/
def AsksToSlowDown : Prop := a.status = 429 ∨ a.Brings charsets HttpReport.SlowsDown

/-- Whether an answer refuses the report. -/
def Refuses : Prop :=
  (a.status = 400 ∨ a.status = 404 ∨ a.status = 422) ∨ a.Brings charsets HttpReport.OnlyExcuses

/-- Whether an answer delivers the report. -/
def Delivers : Prop := a.Brings charsets HttpReport.Tells

end Answer

namespace HttpSource

variable (s : HttpSource) (range : Range) {answer : Answer}

theorem resultOf_of_brings {report : HttpReport}
    (hstatus : 200 ≤ answer.status ∧ answer.status < 300)
    (hreport : HttpReport.ofText? (answer.text s.charsets) = some report) :
    s.resultOf range answer = report.result s.provider range := by
  have hsuccess : answer.isSuccess = true := by
    simpa [Answer.isSuccess] using hstatus
  rw [resultOf, if_pos hsuccess, hreport]

theorem resultOf_of_asksToSlowDown (h : answer.AsksToSlowDown s.charsets) :
    s.resultOf range answer = .error .rateLimited := by
  rcases h with hstatus | ⟨hstatus, report, hreport, hslow⟩
  · have hfailed : ¬ answer.isSuccess = true := by
      simp [Answer.isSuccess, hstatus]
    rw [resultOf, if_neg hfailed, if_pos hstatus]
  · rw [s.resultOf_of_brings range hstatus hreport]
    exact HttpReport.result_of_slowsDown s.provider range hslow

theorem resultOf_of_refuses (h : answer.Refuses s.charsets) :
    ∃ reason, s.resultOf range answer = .error (.invalidReport reason) := by
  rcases h with hstatus | ⟨hstatus, report, hreport, hexcuses⟩
  · have hfailed : ¬ answer.isSuccess = true := by
      simp [Answer.isSuccess]
      omega
    have hrefusal : refusals.contains answer.status = true := by
      simpa [refusals] using hstatus
    have hbusy : ¬ answer.status = 429 := by omega
    simp only [resultOf, if_neg hfailed, if_neg hbusy, if_pos hrefusal]
    exact ⟨_, rfl⟩
  · rw [s.resultOf_of_brings range hstatus hreport]
    exact HttpReport.result_of_onlyExcuses s.provider range hexcuses

theorem resultOf_of_delivers (h : answer.Delivers s.charsets) :
    ∃ report, HttpReport.ofText? (answer.text s.charsets) = some report ∧
      s.resultOf range answer = .ok (report.records s.provider range) := by
  obtain ⟨hstatus, report, hreport, htells⟩ := h
  rw [s.resultOf_of_brings range hstatus hreport]
  exact ⟨report, hreport, HttpReport.result_of_tells s.provider range htells⟩

/-- An answer of no other kind is a failure: it has another status, or it brings no report. -/
theorem resultOf_of_neither (hslow : ¬ answer.AsksToSlowDown s.charsets)
    (hrefuses : ¬ answer.Refuses s.charsets) (hdelivers : ¬ answer.Delivers s.charsets) :
    ∃ reason, s.resultOf range answer = .error (.failure reason) := by
  by_cases hstatus : 200 ≤ answer.status ∧ answer.status < 300
  · have hsuccess : answer.isSuccess = true := by
      simpa [Answer.isSuccess] using hstatus
    cases hreport : HttpReport.ofText? (answer.text s.charsets) with
    | none =>
      rw [resultOf, if_pos hsuccess, hreport]
      exact ⟨_, rfl⟩
    | some report =>
      rcases report.slowsDown_or_onlyExcuses_or_tells with h | h | h
      · exact absurd (.inr ⟨hstatus, report, hreport, h⟩) hslow
      · exact absurd (.inr ⟨hstatus, report, hreport, h⟩) hrefuses
      · exact absurd ⟨hstatus, report, hreport, h⟩ hdelivers
  · have hfailed : ¬ answer.isSuccess = true := by
      simpa [Answer.isSuccess] using hstatus
    have hbusy : ¬ answer.status = 429 := fun h ↦ hslow (.inl h)
    have hrefusal : ¬ refusals.contains answer.status = true := by
      simpa [refusals] using fun h ↦ hrefuses (.inl h)
    simp only [resultOf, if_neg hfailed, if_neg hbusy, if_neg hrefusal]
    exact ⟨_, rfl⟩

/-- An answer asks to slow down, refuses or delivers, or else it is a failure; and no answer is of
two kinds. -/
theorem resultOf_iff :
    (s.resultOf range answer = .error .rateLimited ↔ answer.AsksToSlowDown s.charsets) ∧
      ((∃ reason, s.resultOf range answer = .error (.invalidReport reason)) ↔
        answer.Refuses s.charsets) ∧
      ((∃ found, s.resultOf range answer = .ok found) ↔ answer.Delivers s.charsets) ∧
      ((∃ reason, s.resultOf range answer = .error (.failure reason)) ↔
        ¬ answer.AsksToSlowDown s.charsets ∧ ¬ answer.Refuses s.charsets ∧
          ¬ answer.Delivers s.charsets) := by
  have hslow : answer.AsksToSlowDown s.charsets → s.resultOf range answer = .error .rateLimited :=
    s.resultOf_of_asksToSlowDown range
  have hrefuses : answer.Refuses s.charsets → ∃ reason, s.resultOf range answer =
      .error (.invalidReport reason) :=
    s.resultOf_of_refuses range
  have hdelivers : answer.Delivers s.charsets → ∃ found, s.resultOf range answer = .ok found := by
    intro h
    obtain ⟨report, -, hresult⟩ := s.resultOf_of_delivers range h
    exact ⟨_, hresult⟩
  by_cases h₁ : answer.AsksToSlowDown s.charsets
  · have h₂ : ¬ answer.Refuses s.charsets := fun h ↦ by
      obtain ⟨reason, hresult⟩ := hrefuses h
      simp [hslow h₁] at hresult
    have h₃ : ¬ answer.Delivers s.charsets := fun h ↦ by
      obtain ⟨found, hresult⟩ := hdelivers h
      simp [hslow h₁] at hresult
    simp [hslow h₁, h₁, h₂, h₃]
  · by_cases h₂ : answer.Refuses s.charsets
    · obtain ⟨reason, hrefused⟩ := hrefuses h₂
      have h₃ : ¬ answer.Delivers s.charsets := fun h ↦ by
        obtain ⟨found, hresult⟩ := hdelivers h
        simp [hrefused] at hresult
      simp [hrefused, h₁, h₂, h₃]
    · by_cases h₃ : answer.Delivers s.charsets
      · obtain ⟨found, hfound⟩ := hdelivers h₃
        simp [hfound, h₁, h₂, h₃]
      · obtain ⟨reason, hfailed⟩ := s.resultOf_of_neither range h₁ h₂ h₃
        simp [hfailed, h₁, h₂, h₃]

end HttpSource

/-! ### Months of a report -/

/-- Entries taken key by key are all entries that have one of the keys. -/
theorem flatMap_filter_perm {α κ : Type} [DecidableEq κ] (key : α → κ) (l : List α) {keys : List κ}
    (h : keys.Nodup) :
    (keys.flatMap fun k ↦ l.filter (key · = k)).Perm (l.filter (key · ∈ keys)) := by
  induction keys with
  | nil => simp
  | cons k rest ih =>
    obtain ⟨hk, hrest⟩ := List.nodup_cons.mp h
    have hsplit := List.filter_append_perm (key · = k) (l.filter (key · ∈ k :: rest))
    have hfirst : (l.filter (key · ∈ k :: rest)).filter (key · = k) = l.filter (key · = k) := by
      rw [List.filter_filter]
      apply List.filter_congr
      intro a _
      by_cases ha : key a = k <;> simp [ha]
    have hothers : (l.filter (key · ∈ k :: rest)).filter (fun a ↦ !decide (key a = k)) =
        l.filter (key · ∈ rest) := by
      rw [List.filter_filter]
      apply List.filter_congr
      intro a _
      by_cases ha : key a = k
      · simp [ha, hk]
      · simp [ha]
    rw [hfirst, hothers] at hsplit
    rw [List.flatMap_cons]
    exact ((ih hrest).append_left _).trans hsplit

namespace HttpReport

variable (r : HttpReport) (provider : String) (range : Range)

/-- What a report holds of the months of a range is what it holds between its ends. -/
theorem flatMap_dataOf_perm :
    (range.months.flatMap r.dataOf).Perm
      ((r.items.filter fun item ↦ range.first ≤ item.month ∧ item.month ≤ range.last).map
        ReportItem.data) := by
  have hperm := (flatMap_filter_perm ReportItem.month r.items
    (Month.nodup_between range.first range.last)).map ReportItem.data
  simp only [Month.mem_between, List.map_flatMap] at hperm
  exact hperm

/-- Among a report's records the last one for a month of the range is its only one. -/
theorem lastFor_records {m : Month} (hm : m ∈ range.months) :
    lastFor range.reportType m (r.records provider range) =
      some (.success provider range.reportType m (.arr (r.dataOf m))) := by
  cases hlast : lastFor range.reportType m (r.records provider range) with
  | none =>
    have hmem : Record.success provider range.reportType m (.arr (r.dataOf m)) ∈
        r.records provider range := List.mem_map_of_mem hm
    exact absurd rfl (month_ne_of_lastFor_eq_none hlast hmem rfl)
  | some x =>
    obtain ⟨hx, hcell⟩ := cell_of_lastFor hlast
    obtain ⟨m', -, rfl⟩ := List.mem_map.mp hx
    obtain rfl : m' = m := (Prod.mk.inj hcell).2
    rfl

/-- The records of a report are filed as they are, in whatever name. -/
theorem filed_records (owner : String) :
    range.filed owner (r.records provider range) =
      (r.records provider range).map fun x ↦ { x with provider := owner } := by
  rw [Range.filed_eq, records, List.map_map]
  apply List.map_congr_left
  intro m hm
  have hlast := r.lastFor_records provider range hm
  rw [records] at hlast
  rw [Range.report, hlast]
  rfl

/-- No record of a report is a placeholder, in whatever name. -/
theorem countP_isFailure_records (owner : String) :
    ((r.records provider range).map fun x ↦ { x with provider := owner }).countP (·.isFailure) =
      0 := by
  simp [records, Record.success, Record.isFailure]

end HttpReport

namespace HttpSource

variable {σ : Type} {s : HttpSource} {net : Network σ} {range : Range} {url : Url} {answer : Answer}
  {state state' : σ}

/-- A fetch comes to what its answer means. -/
theorem fetch_of_get (hurl : s.reportUrl range.reportType = .ok url)
    (hget : net.get s.agent s.timeout url (s.fields range) state = (.ok answer, state')) :
    s.fetch net range state = (s.resultOf range answer, state') := by
  delta fetch
  rw [hurl]
  simp only [hget]

/-- Whatever a server answers to a fetch and however it is read, the fetch is told to slow down, is
refused, brings records or fails, each exactly if the answer is of that kind. Where it brings
records, they are one satisfied record for each month of the range, in ascending order, which holds
the data of all items of the month in their order; of the items between the ends of the range none
is lost. A run that takes them in emits them in its own name, and no placeholder. -/
theorem fetch_classified (hurl : s.reportUrl range.reportType = .ok url)
    (hget : net.get s.agent s.timeout url (s.fields range) state = (.ok answer, state')) :
    let result := (s.fetch net range state).1
    ((result = .error .rateLimited ↔ answer.AsksToSlowDown s.charsets) ∧
      ((∃ reason, result = .error (.invalidReport reason)) ↔ answer.Refuses s.charsets) ∧
      ((∃ found, result = .ok found) ↔ answer.Delivers s.charsets) ∧
      ((∃ reason, result = .error (.failure reason)) ↔
        ¬ answer.AsksToSlowDown s.charsets ∧ ¬ answer.Refuses s.charsets ∧
          ¬ answer.Delivers s.charsets)) ∧
    ∀ found, result = .ok found →
      ∃ report, HttpReport.ofText? (answer.text s.charsets) = some report ∧
      (found.map Record.month = range.months ∧ range.months.Pairwise (· < ·) ∧
        ∀ m, m ∈ range.months ↔ range.first ≤ m ∧ m ≤ range.last) ∧
      (∀ x ∈ found, x.isSatisfied = true ∧ x.reportType = range.reportType ∧
        x.payload = some (.arr ((report.items.filter (·.month = x.month)).map ReportItem.data))) ∧
      (range.months.flatMap report.dataOf).Perm
        ((report.items.filter fun item ↦ range.first ≤ item.month ∧ item.month ≤ range.last).map
          ReportItem.data) ∧
      ∀ (r : Run) (attempts : Nat), r.receiving = true →
        (r.take ⟨range, attempts⟩ result).emitted =
            r.emitted ++ found.map (fun x ↦ { x with provider := r.provider }) ∧
          (r.take ⟨range, attempts⟩ result).tally.placeholders = r.tally.placeholders := by
  intro result
  have hresult : result = s.resultOf range answer := congrArg Prod.fst (fetch_of_get hurl hget)
  rw [hresult]
  refine ⟨s.resultOf_iff range, ?_⟩
  intro found hfound
  have hdelivers := (s.resultOf_iff range).2.2.1.mp ⟨found, hfound⟩
  obtain ⟨report, hreport, hrecords⟩ := s.resultOf_of_delivers range hdelivers
  obtain rfl : found = report.records s.provider range :=
    Except.ok.inj (hfound.symm.trans hrecords)
  refine ⟨report, hreport, ⟨?_, Month.pairwise_between _ _, Month.mem_between _ _⟩, ?_,
    report.flatMap_dataOf_perm range, ?_⟩
  · simp [HttpReport.records, Record.success, Function.comp_def]
  · intro x hx
    obtain ⟨m, -, rfl⟩ := List.mem_map.mp hx
    exact ⟨rfl, rfl, rfl⟩
  · intro r attempts hr
    have hrun : r.take ⟨range, attempts⟩ (.ok (report.records s.provider range)) =
        r.accept ⟨range, attempts⟩ (report.records s.provider range) := rfl
    have ht := Run.takes_accept hr ⟨range, attempts⟩ (report.records s.provider range)
    have hemits : FetchTask.emits r.provider ⟨range, attempts⟩
        (.filed (report.records s.provider range)) = _ :=
      report.filed_records s.provider range r.provider
    rw [hrecords, hrun]
    constructor
    · rw [ht.emitted, hemits]
    · rw [ht.tally, hemits]
      simp [Tally.ofRecords, Tally.ofVerdict, report.countP_isFailure_records]

/-- Of four items two are of the second of two months, one is of the first, and one is of a month
beyond them. -/
theorem fetch_classified_of_two_months :
    let january : Month := .january 2020
    let s : HttpSource :=
      { base := { scheme := "http", host := some (.name "h"), path := .segments [""] }
        provider := "p", params := [], agent := "a", timeout := 1 }
    let range : Range := ⟨"DR", january, january.succ⟩
    let answer : Answer :=
      { status := 200
        body := "\x7b\"items\": [\x7b\"month\": \"2020-02\", \"data\": 3\x7d, " ++
          "\x7b\"month\": \"2020-01\", \"data\": 1\x7d, \x7b\"month\": \"2020-04\"\x7d, " ++
          "\x7b\"month\": \"2020-02\", \"data\": 2\x7d]\x7d" }
    let net : Network Unit := fun _ _ ↦ (.answered answer, ())
    answer.Delivers s.charsets ∧
      ((s.fetch net range ()).1.toOption.map (·.map fun x ↦ (x.month, x.payload.map Json.text))) =
        some [(january, some "[1]"), (january.succ, some "[3,2]")] := by
  intro january s range answer net
  have hurl : s.reportUrl range.reportType =
      .ok { s.base with path := .segments ["reports", "dr"] } := by
    decide +kernel
  have hget : net.get s.agent s.timeout { s.base with path := .segments ["reports", "dr"] }
      (s.fields range) () = (.ok answer, ()) := by
    decide +kernel
  have hfetched : ((s.fetch net range ()).1.toOption.map
      (·.map fun x ↦ (x.month, x.payload.map Json.text))) =
        some [(january, some "[1]"), (january.succ, some "[3,2]")] := by
    decide +kernel
  refine ⟨?_, hfetched⟩
  apply (fetch_classified hurl hget).1.2.2.1.mp
  generalize (s.fetch net range ()).1 = result at hfetched
  cases result with
  | ok found => exact ⟨found, rfl⟩
  | error e => exact absurd hfetched.symm (Option.some_ne_none _)

end HttpSource
end UsageReports
