import Mathlib.Data.ENat.Lattice
import UsageReports.Pace.Retry

/-!
# When trying again ends

An operation is called again as long as its errors allow it and retries are left. So the last call
is the first one with a final result, a success or an error that allows no more, unless the retries
are spent before. Each further call waits for the delay of its number, and a counter of 32 bits has
room for as many retries as it can be told to allow. It has no room for the number of calls, which
is one more: whoever gives up after as many retries as 32 bits can tell tells no calls at all, or
fails where sums are checked.
-/

namespace UsageReports

/-! ### Times of calls -/

namespace Retried

@[simp] theorem length_times (now : Nat) (waits : List Nat) :
    (times now waits).length = waits.length + 1 := by
  induction waits generalizing now with
  | nil => rfl
  | cons wait waits ih => simp [times, ih]

@[simp] theorem times_getElem?_zero (now : Nat) (waits : List Nat) :
    (times now waits)[0]? = some now := by
  cases waits with
  | nil => rfl
  | cons wait waits => rfl

/-- A further call comes its wait later than the one before it. -/
theorem times_getElem?_succ (now : Nat) (waits : List Nat) (k : Nat) (h : k < waits.length) :
    (times now waits)[k + 1]? = (times now waits)[k]?.map (· + waits[k]) := by
  induction waits generalizing now k with
  | nil => simp at h
  | cons wait waits ih =>
    cases k with
    | zero => simp only [times, List.getElem?_cons_succ, times_getElem?_zero]; rfl
    | succ k =>
      simp only [times, List.getElem?_cons_succ, List.getElem_cons_succ]
      apply ih

end Retried

namespace Backoff

variable {ε α : Type} {b : Backoff} {retryable : ε → Bool} {results : Nat → Except ε α}

/-! ### The last call -/

/-- Whether a result is final: a success, or an error that is not to be tried again. -/
def isFinal (retryable : ε → Bool) : Except ε α → Bool
  | .ok _ => true
  | .error e => !retryable e

/-- The number of results before the first final one, which may be infinite. -/
inductive FirstFinal (retryable : ε → Bool) (results : Nat → Except ε α) : ℕ∞ → Prop
  | after (n : Nat) (final : isFinal retryable (results n) = true)
      (before : ∀ k < n, isFinal retryable (results k) = false) : FirstFinal retryable results n
  | never (h : ∀ k, isFinal retryable (results k) = false) : FirstFinal retryable results ⊤

theorem exists_firstFinal (retryable : ε → Bool) (results : Nat → Except ε α) :
    ∃ n, FirstFinal retryable results n := by
  by_cases h : ∃ n, isFinal retryable (results n) = true
  · refine ⟨Nat.find h, FirstFinal.after _ (Nat.find_spec h) ?_⟩
    intro k hk
    simpa using Nat.find_min h hk
  · refine ⟨⊤, .never ?_⟩
    simpa using h

/-- Whether calls from number `attempt` on end at the right one, with `left` retries left. -/
structure EndsRight (b : Backoff) (retryable : ε → Bool) (results : Nat → Except ε α)
    (attempt left : Nat) (r : Retried ε α) : Prop where
  bounded : r.waits.length ≤ left
  result : r.result = results (attempt + r.waits.length)
  waits : r.waits = (List.range' (attempt + 1) r.waits.length).map b.delay
  before : ∀ k < r.waits.length, isFinal retryable (results (attempt + k)) = false
  ended : isFinal retryable (results (attempt + r.waits.length)) = true ∨ r.waits.length = left

/-- A single call with a final result, or the last one that is allowed. -/
theorem EndsRight.single {attempt left : Nat}
    (h : isFinal retryable (results attempt) = true ∨ left = 0) :
    EndsRight b retryable results attempt left ⟨results attempt, []⟩ where
  bounded := Nat.zero_le _
  result := rfl
  waits := rfl
  before k hk := absurd hk (Nat.not_lt_zero k)
  ended := h.imp_right Eq.symm

/-- A call that is tried again, and the calls after it. -/
theorem EndsRight.again {attempt left : Nat} {r : Retried ε α}
    (h : isFinal retryable (results attempt) = false)
    (hr : EndsRight b retryable results (attempt + 1) left r) :
    EndsRight b retryable results attempt (left + 1)
      ⟨r.result, b.delay (attempt + 1) :: r.waits⟩ := by
  have hnext (k : Nat) : attempt + (k + 1) = attempt + 1 + k := by omega
  constructor
  · exact Nat.succ_le_succ hr.bounded
  · rw [List.length_cons, hnext r.waits.length]
    exact hr.result
  · rw [List.length_cons, List.range'_succ, List.map_cons, ← hr.waits]
  · intro k hk
    cases k with
    | zero => exact h
    | succ k =>
      rw [hnext]
      exact hr.before k (Nat.lt_of_succ_lt_succ hk)
  · rw [List.length_cons, hnext r.waits.length]
    exact hr.ended.imp_right (congrArg Nat.succ)

theorem endsRight_retryFrom (b : Backoff) (retryable : ε → Bool) (results : Nat → Except ε α)
    (attempt left : Nat) :
    EndsRight b retryable results attempt left (b.retryFrom retryable results attempt left) := by
  induction left generalizing attempt with
  | zero => exact .single (.inr rfl)
  | succ left ih =>
    rw [retryFrom]
    split
    · next a h =>
      rw [← h]
      exact .single (.inl (by rw [h]; rfl))
    · next e h =>
      split
      · next hretry => exact .again (by rw [h, isFinal, hretry]; rfl) (ih (attempt + 1))
      · next hfinal =>
        rw [← h]
        exact .single (.inl (by rw [h]; simpa [isFinal] using hfinal))

/-- A further call waits for the delay of its number. -/
theorem EndsRight.getElem_waits {left k : Nat} {r : Retried ε α}
    (hr : EndsRight b retryable results 0 left r) (hk : k < r.waits.length) :
    r.waits[k] = b.delay (k + 1) := by
  rw [List.getElem_of_eq hr.waits hk]
  simp [Nat.add_comm]

theorem EndsRight.length_waits_of_final {left n : Nat} {r : Retried ε α}
    (hr : EndsRight b retryable results 0 left r)
    (hfinal : isFinal retryable (results n) = true)
    (hbefore : ∀ k < n, isFinal retryable (results k) = false) : r.waits.length = min n left := by
  have hbounded := hr.bounded
  have hle : r.waits.length ≤ n := by
    by_contra hlt
    have hnot := hr.before n (by omega)
    rw [Nat.zero_add, hfinal] at hnot
    contradiction
  by_cases hge : n ≤ r.waits.length
  · omega
  · have hlast := hbefore r.waits.length (by omega)
    have hspent := hr.ended.resolve_left (by simp [hlast])
    omega

/-- As many retries are made as there are results before the first final one, if so many are
allowed. -/
theorem EndsRight.length_waits {left : Nat} {r : Retried ε α} {n : ℕ∞}
    (hr : EndsRight b retryable results 0 left r) (hn : FirstFinal retryable results n) :
    (r.waits.length : ℕ∞) = min n left := by
  cases hn with
  | never h =>
    have hspent := hr.ended.resolve_left (by simp [h])
    rw [hspent, min_eq_right le_top]
  | after n hfinal hbefore =>
    rw [hr.length_waits_of_final hfinal hbefore]
    exact Nat.mono_cast.map_min

/-! ### Counting in 32 bits -/

/-- Trying with a counter of 32 bits that is compared with `limit` before it counts a retry, and has
to have room for it. The next call is the one with number `call`. Giving up tells the number of
calls, the word after the counter. If sums are `checked`, that word needs room as well; otherwise it
starts over from 0. -/
inductive Counts (checked : Bool) (b : Backoff) (retryable : ε → Bool) (results : Nat → Except ε α)
    (limit : UInt32) : UInt32 → Nat → Retried ε α → Option UInt32 → Prop
  | success {counter : UInt32} {call : Nat} {a : α} (h : results call = .ok a) :
      Counts checked b retryable results limit counter call ⟨.ok a, []⟩ none
  | final {counter : UInt32} {call : Nat} {e : ε} (h : results call = .error e)
      (final : retryable e = false) :
      Counts checked b retryable results limit counter call ⟨.error e, []⟩ none
  | spent {counter : UInt32} {call : Nat} {e : ε} (h : results call = .error e)
      (again : retryable e = true) (spent : limit ≤ counter)
      (room : checked = true → counter.toNat + 1 < UInt32.size) :
      Counts checked b retryable results limit counter call ⟨.error e, []⟩ (some (counter + 1))
  | again {counter : UInt32} {call : Nat} {e : ε} {r : Retried ε α} {told : Option UInt32}
      (h : results call = .error e) (again : retryable e = true) (left : counter < limit)
      (room : counter.toNat + 1 < UInt32.size)
      (rest : Counts checked b retryable results limit (counter + 1) (call + 1) r told) :
      Counts checked b retryable results limit counter call
        ⟨r.result, b.delay (counter + 1).toNat :: r.waits⟩ told

/-- What is told at the end: the number of calls in 32 bits, if the last result would have allowed
one more. -/
def told (retryable : ε → Bool) (r : Retried ε α) : Option UInt32 :=
  if isFinal retryable r.result then none else some (.ofNat r.calls)

variable {checked : Bool} {limit counter : UInt32} {call : Nat} {r : Retried ε α}
  {tells : Option UInt32}

/-- Counted in 32 bits the calls are the same, unless the number of calls has to be told, has no
room and is checked. -/
theorem counts_retryFrom (b : Backoff) (retryable : ε → Bool) (results : Nat → Except ε α)
    {left : Nat} (h : counter.toNat + left = limit.toNat)
    (hroom : checked = true →
      isFinal retryable (b.retryFrom retryable results counter.toNat left).result = false →
      limit.toNat + 1 < UInt32.size) :
    let r := b.retryFrom retryable results counter.toNat left
    Counts checked b retryable results limit counter counter.toNat r
      ((told retryable r).map (counter + ·)) := by
  intro r
  induction left generalizing counter with
  | zero =>
    simp only [r, retryFrom] at hroom ⊢
    cases hresult : results counter.toNat with
    | ok a => exact .success hresult
    | error e =>
      cases hretry : retryable e with
      | false =>
        rw [told, if_pos (by simp [isFinal, hretry])]
        exact .final hresult hretry
      | true =>
        have hnot : isFinal retryable (.error e : Except ε α) = false := by simp [isFinal, hretry]
        rw [told, if_neg (by simp [hnot])]
        apply Counts.spent hresult hretry (UInt32.le_iff_toNat_le.mpr (by omega))
        intro hchecked
        have hlimit := hroom hchecked (by rw [hresult]; exact hnot)
        omega
  | succ left ih =>
    simp only [r, retryFrom] at hroom ⊢
    split
    · next a hresult => exact .success hresult
    · next e hresult =>
      rw [hresult] at hroom
      split
      · next hretry =>
        have hfits : counter.toNat + 1 < UInt32.size := by
          have hlimit := limit.toNat_lt_size
          omega
        have hsucc : (counter + 1).toNat = counter.toNat + 1 := by
          rw [UInt32.toNat_add]
          exact Nat.mod_eq_of_lt hfits
        have hleft : counter < limit := UInt32.lt_iff_toNat_lt.mpr (by omega)
        simp only [hretry, if_true] at hroom
        have hrest := @ih (counter + 1) (by omega) (by rw [hsucc]; exact hroom)
        rw [hsucc] at hrest
        have hstep := Counts.again hresult hretry hleft hfits hrest
        rw [hsucc] at hstep
        convert hstep using 1
        simp only [told, Retried.calls, List.length_cons, UInt32.ofNat_add]
        split
        · rfl
        · simp only [Option.map_some, UInt32.ofNat_one]
          ac_rfl
      · next hfinal =>
        have hfinal : retryable e = false := by simpa using hfinal
        rw [told, if_pos (by simp [isFinal, hfinal])]
        exact .final hresult hfinal

/-- Counting in 32 bits goes one way only, whether sums are checked or not. -/
theorem Counts.unique {checked' : Bool} {r' : Retried ε α} {tells' : Option UInt32}
    (h : Counts checked b retryable results limit counter call r tells)
    (h' : Counts checked' b retryable results limit counter call r' tells') :
    r' = r ∧ tells' = tells := by
  induction h generalizing r' tells' with
  | success h => cases h' <;> simp_all
  | final h hfinal => cases h' <;> simp_all
  | spent h hagain hspent =>
    cases h' with
    | success h' => simp [h] at h'
    | final h' hfinal' => simp_all
    | spent h' => simp_all
    | again h' hagain' hleft' => exact absurd hleft' (UInt32.not_lt.mpr hspent)
  | again h hagain hleft hroom hrest ih =>
    cases h' with
    | success h' => simp [h] at h'
    | final h' hfinal' => simp_all
    | spent h' hagain' hspent' => exact absurd hleft (UInt32.not_lt.mpr hspent')
    | again h' hagain' hleft' hroom' hrest' =>
      obtain ⟨rfl, rfl⟩ := ih hrest'
      exact ⟨rfl, rfl⟩

/-- Where sums are checked, giving up needs room for one more than the retries that are allowed. -/
theorem Counts.room_of_gave_up (h : Counts true b retryable results limit counter call r tells)
    (hup : isFinal retryable r.result = false) : limit.toNat + 1 < UInt32.size := by
  induction h with
  | success => simp [isFinal] at hup
  | final h hfinal => simp [isFinal, hfinal] at hup
  | spent h hagain hspent hroom =>
    have hspent := UInt32.le_iff_toNat_le.mp hspent
    have hroom := hroom rfl
    omega
  | again h hagain hleft hroom hrest ih => exact ih hup

/-- What counting in 32 bits comes to: the same calls, and where sums are checked, nothing if the
number of calls has to be told and has no room. -/
theorem counts_iff (hlimit : limit.toNat = b.maxRetries) :
    Counts checked b retryable results limit 0 0 r tells ↔
      r = b.retry retryable results ∧ tells = told retryable (b.retry retryable results) ∧
        (checked = true → isFinal retryable (b.retry retryable results).result = false →
          limit.toNat + 1 < UInt32.size) := by
  have hstart : (0 : UInt32).toNat + b.maxRetries = limit.toNat := by
    rw [UInt32.toNat_zero, Nat.zero_add, hlimit]
  have hcounts (checked : Bool) :=
    @counts_retryFrom ε α checked limit 0 b retryable results b.maxRetries hstart
  constructor
  · intro h
    obtain ⟨rfl, rfl⟩ := h.unique (hcounts false (by simp))
    refine ⟨rfl, by simp; rfl, ?_⟩
    intro hchecked hup
    subst hchecked
    exact h.room_of_gave_up hup
  · rintro ⟨rfl, rfl, hroom⟩
    simpa [retry] using hcounts checked hroom

/-- An operation is called until its first final result, but no more than once and then as often as
retries are allowed. The result is that of the last call. The first call waits for nothing, each
further one for the delay of its number. Counted in 32 bits the retries are the same, and the
counter has room for them. Only the number of calls that is told when giving up may have none: where
sums are checked, nothing comes out of giving up after 2³² - 1 retries. -/
theorem retry_ends_right (b : Backoff) (retryable : ε → Bool) (results : Nat → Except ε α)
    (now : Nat) :
    let r := b.retry retryable results
    let times := Retried.times now r.waits
    (∃ n, FirstFinal retryable results n) ∧
    (∀ n, FirstFinal retryable results n → (r.calls : ℕ∞) = min n b.maxRetries + 1) ∧
    r.result = results (r.calls - 1) ∧
    times.length = r.calls ∧ times[0]? = some now ∧
    (∀ k, k + 1 < r.calls → times[k + 1]? = times[k]?.map (· + b.delay (k + 1))) ∧
    ∀ limit : UInt32, limit.toNat = b.maxRetries →
      Counts false b retryable results limit 0 0 r (told retryable r) ∧
      ∀ checked r' tells, Counts checked b retryable results limit 0 0 r' tells ↔
        r' = r ∧ tells = told retryable r ∧
          (checked = true → isFinal retryable r.result = false →
            limit.toNat + 1 < UInt32.size) := by
  intro r times
  have hends : EndsRight b retryable results 0 b.maxRetries r :=
    endsRight_retryFrom b retryable results 0 b.maxRetries
  refine ⟨exists_firstFinal retryable results, ?_, ?_, Retried.length_times now r.waits,
    Retried.times_getElem?_zero now r.waits, ?_, ?_⟩
  · intro n hn
    rw [Retried.calls, Nat.cast_add, hends.length_waits hn]
    rfl
  · rw [hends.result, Nat.zero_add]
    rfl
  · intro k hk
    have hk : k < r.waits.length := Nat.lt_of_succ_lt_succ hk
    rw [← hends.getElem_waits hk]
    exact Retried.times_getElem?_succ now r.waits k hk
  · intro limit hlimit
    refine ⟨(counts_iff hlimit).mpr ⟨rfl, rfl, by simp⟩, ?_⟩
    intro checked r' tells
    exact counts_iff hlimit

section AtTheLimit

private def unweary : Backoff := { maxRetries := 4294967295 }

/-- Two answers that are to be tried again, and then a success. -/
private def busyTwice : Nat → Except Bool String
  | 0 => .error true
  | 1 => .error true
  | _ => .ok "written"

private def alwaysBusy (_ : Nat) : Except Bool String := .error true

private theorem busyTwice_end {r : Retried Bool String} (hcalls : (r.calls : ℕ∞) = 3)
    (hresult : r.result = busyTwice (r.calls - 1)) :
    r.result = .ok "written" ∧ told id r = none := by
  have hthree : r.calls = 3 := by exact_mod_cast hcalls
  have hwritten : r.result = .ok "written" := by
    rw [hresult, hthree]
    rfl
  refine ⟨hwritten, ?_⟩
  rw [told, hwritten]
  rfl

private theorem told_alwaysBusy {r : Retried Bool String} (hcalls : (r.calls : ℕ∞) = 4294967296)
    (hresult : r.result = .error true) : told id r = some 0 := by
  have hall : r.calls = 4294967296 := by exact_mod_cast hcalls
  rw [told, hresult, hall, if_neg (by decide)]
  decide

/-- As many retries are allowed as 32 bits can tell. When two are made, they are counted whether
sums are checked or not. When all are made, the last error comes out and no calls are told, unless
sums are checked. -/
theorem retry_ends_right_at_the_limit :
    let r := unweary.retry id busyTwice
    let r' := unweary.retry id alwaysBusy
    (4294967295 : UInt32).toNat = unweary.maxRetries ∧
    FirstFinal id busyTwice 2 ∧ (r.calls : ℕ∞) = 3 ∧ r.result = .ok "written" ∧
    (∀ checked, Counts checked unweary id busyTwice 4294967295 0 0 r none) ∧
    FirstFinal id alwaysBusy ⊤ ∧ (r'.calls : ℕ∞) = 4294967296 ∧ r'.result = .error true ∧
    Counts false unweary id alwaysBusy 4294967295 0 0 r' (some 0) ∧
    ¬ ∃ r tells, Counts true unweary id alwaysBusy 4294967295 0 0 r tells := by
  have hlimit : (4294967295 : UInt32).toNat = unweary.maxRetries := rfl
  have hfirst : FirstFinal id busyTwice 2 := .after 2 rfl (by decide)
  have hnever : FirstFinal id alwaysBusy ⊤ := .never (fun _ ↦ rfl)
  obtain ⟨-, hcalls, hresult, -, -, -, hcounts⟩ := retry_ends_right unweary id busyTwice 0
  obtain ⟨-, hcalls', hresult', -, -, -, hcounts'⟩ := retry_ends_right unweary id alwaysBusy 0
  have hthree := (hcalls 2 hfirst).trans (show _ = (3 : ℕ∞) by rfl)
  have hall := (hcalls' ⊤ hnever).trans
    (show _ = (4294967296 : ℕ∞) by rw [min_eq_right le_top]; rfl)
  obtain ⟨hwritten, hnotold⟩ := busyTwice_end hthree hresult
  have htold := told_alwaysBusy hall hresult'
  refine ⟨hlimit, hfirst, hthree, hwritten, ?_, hnever, hall, hresult', ?_, ?_⟩
  · intro checked
    rw [← hnotold]
    apply ((hcounts _ hlimit).2 checked _ _).mpr
    refine ⟨rfl, rfl, ?_⟩
    intro _ hup
    simp [hwritten, isFinal] at hup
  · rw [← htold]
    exact (hcounts' _ hlimit).1
  · rintro ⟨r, tells, hchecked⟩
    obtain ⟨-, -, hroom⟩ := ((hcounts' _ hlimit).2 true r tells).mp hchecked
    exact Nat.lt_irrefl UInt32.size (hroom rfl (by rw [hresult']; rfl))

end AtTheLimit

end Backoff
end UsageReports
