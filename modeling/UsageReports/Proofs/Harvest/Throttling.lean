import Mathlib.Logic.Function.Basic
import UsageReports.Proofs.Harvest.Timeline

/-!
# Fetches in flight

A run never has more fetches in flight than its limit was at first, and its limit never rises. Once
the source has asked to slow down, a fetch is launched only when nothing else is in flight: what
still overlaps was launched before. This holds in whatever order the replies come and whenever the
records of the run find no taker any more. Each run has a limit of its own.
-/

namespace UsageReports

/-- Whether a reply asks to slow down. -/
def Reply.isSlowing : Reply → Bool
  | .refused .rateLimited => true
  | _ => false

namespace Run

theorem inFlight_emit (r : Run) (records : List Record) :
    (r.emit records).inFlight = r.inFlight ∨ (r.emit records).inFlight = [] := by
  unfold emit
  split
  · exact Or.inl rfl
  · split
    · exact Or.inl rfl
    · exact Or.inr rfl

theorem inFlight_reject (r : Run) (task : FetchTask) (reason : String) :
    (r.reject task reason).inFlight = r.inFlight ∨ (r.reject task reason).inFlight = [] := by
  unfold reject
  split
  · exact inFlight_emit _ _
  · exact Or.inl rfl

/-- Taking in what a fetch brought leaves the others in flight, or ends the run. -/
theorem inFlight_take (r : Run) (task : FetchTask) (result : Except FetchError (List Record)) :
    (r.take task result).inFlight = r.inFlight ∨ (r.take task result).inFlight = [] := by
  cases result with
  | ok returned => exact inFlight_emit _ _
  | error e =>
    cases e with
    | rateLimited =>
      change (r.slower.askAgain _).inFlight = r.slower.inFlight ∨
        (r.slower.askAgain _).inFlight = []
      unfold askAgain
      split
      · exact Or.inl rfl
      · exact inFlight_reject _ _ _
    | invalidReport reason => exact inFlight_reject _ _ _
    | failure reason => exact inFlight_emit _ _

theorem inFlight_settle (r : Run) (i : Nat) (reply : Reply) :
    (r.settle i reply).inFlight = r.inFlight.eraseIdx i ∨ (r.settle i reply).inFlight = [] := by
  unfold settle
  split
  · next hnone =>
    rw [List.eraseIdx_of_length_le (List.getElem?_eq_none_iff.mp hnone)]
    exact Or.inl rfl
  · exact inFlight_take _ _ _

/-- Whether taking in an arrival slows the run down. -/
def isSlowedBy (r : Run) (a : Arrival) : Bool :=
  r.inFlight[a.place]?.isSome && a.reply.isSlowing

theorem limit_settle (r : Run) (a : Arrival) :
    (r.settle a.place a.reply).limit = if r.isSlowedBy a then r.limit.lowered else r.limit := by
  unfold settle isSlowedBy
  split
  · next hnone =>
    rw [hnone]
    rfl
  · next task htask =>
    rw [htask, Option.isSome_some, Bool.true_and, limit_take]
    cases hreply : a.reply with
    | refused cause => cases cause <;> rfl
    | records returned => rfl
    | panicked text => rfl
    | died => rfl

theorem limit_step (r : Run) (a : Arrival) :
    (r.step a).limit = if r.isSlowedBy a then r.limit.lowered else r.limit :=
  r.limit_settle a

/-- Launching goes on up to the limit, and not at all beyond it. -/
theorem length_inFlight_fill_le (r : Run) :
    r.fill.inFlight.length ≤ max r.limit.current r.inFlight.length := by
  rw [fill, List.length_append, List.length_take, room]
  omega

end Run

/-- What happens to a run: a reply comes, or nobody takes its records any more. -/
inductive Happening where
  | reply (a : Run.Arrival)
  | abandoned

/-- A run that is watched. -/
structure Watch where
  run : Run
  /-- Whether the source has asked to slow down. -/
  slowed : Bool := false
  /-- For each fetch in flight, whether it was launched since. -/
  late : List Bool

namespace Watch

/-- Watch a run from its start. -/
def start (settings : RunSettings) (provider : String) (plan : List Range) : Watch :=
  let run := Run.start settings provider plan
  { run, late := List.replicate run.inFlight.length false }

section Step

variable (w : Watch) (a : Run.Arrival)

/-- Whether the source has asked to slow down once a reply is taken in. -/
def slowedBy : Bool := w.slowed || w.run.isSlowedBy a

/-- The marks of the fetches that a reply leaves in flight. -/
def kept : List Bool :=
  (w.late.eraseIdx a.place).take (w.run.settle a.place a.reply).inFlight.length

/-- How many fetches are launched after a reply. -/
def launchedBy : Nat :=
  (w.run.step a).inFlight.length - (w.run.settle a.place a.reply).inFlight.length

/-- Watch a run while something happens to it. What is launched after a reply stands behind what the
reply leaves in flight. -/
def step : Happening → Watch
  | .reply a =>
    { run := w.run.step a
      slowed := w.slowedBy a
      late := w.kept a ++ List.replicate (w.launchedBy a) (w.slowedBy a) }
  | .abandoned => { w with run := w.run.abandoned }

theorem sublist_kept : (w.kept a).Sublist w.late :=
  (List.take_sublist _ _).trans (List.eraseIdx_sublist _ _)

theorem length_step : (w.run.step a).inFlight.length =
    (w.run.settle a.place a.reply).inFlight.length + w.launchedBy a := by
  have hgrown : (w.run.settle a.place a.reply).inFlight.length ≤
      (w.run.step a).inFlight.length := by
    rw [Run.step, Run.fill, List.length_append]
    exact Nat.le_add_right _ _
  rw [launchedBy, Nat.add_sub_cancel' hgrown]

/-- Launching after a reply keeps to the limit. -/
theorem length_step_le : (w.run.settle a.place a.reply).inFlight.length + w.launchedBy a ≤
    max (w.run.step a).limit.current (w.run.settle a.place a.reply).inFlight.length := by
  rw [← length_step]
  exact (w.run.settle a.place a.reply).length_inFlight_fill_le

end Step

/-- Watch a run while things happen to it, one after the other. -/
def after (w : Watch) (happenings : List Happening) : Watch := happenings.foldl step w

@[simp] theorem after_nil (w : Watch) : w.after [] = w := rfl

@[simp] theorem after_cons (w : Watch) (h : Happening) (rest : List Happening) :
    w.after (h :: rest) = (w.step h).after rest := rfl

theorem after_append (w : Watch) (earlier later : List Happening) :
    w.after (earlier ++ later) = (w.after earlier).after later :=
  List.foldl_append

/-- What holds of a watched run at any time, where at most `most` fetches may be in flight. -/
structure Bounded (most : Nat) (w : Watch) : Prop where
  limit_pos : 0 < w.run.limit.current
  limit_le : w.run.limit.current ≤ most
  inFlight_le : w.run.inFlight.length ≤ most
  length_late : w.late.length = w.run.inFlight.length
  /-- The limit is one since the source asked to slow down. -/
  limit_of_slowed : w.slowed = true → w.run.limit.current = 1
  slowed_of_late : true ∈ w.late → w.slowed = true
  /-- What was launched since is alone in flight. -/
  alone : true ∈ w.late → w.late = [true]

theorem bounded_start (settings : RunSettings) (provider : String) (plan : List Range) :
    (start settings provider plan).Bounded (max 1 settings.maxConcurrency) := by
  have hlimit : (start settings provider plan).run.limit.current = max 1 settings.maxConcurrency :=
    Nat.max_comm _ _
  have hlate : true ∉ (start settings provider plan).late := by
    simp [start]
  refine ⟨?_, Nat.le_of_eq hlimit, ?_, List.length_replicate, fun h ↦ absurd h Bool.false_ne_true,
    fun h ↦ absurd h hlate, fun h ↦ absurd h hlate⟩
  · rw [hlimit]
    omega
  · have hle := (Run.ofPlan settings provider plan).length_inFlight_fill_le
    rw [← hlimit]
    exact hle.trans (Nat.max_le.mpr ⟨Nat.le_refl _, Nat.zero_le _⟩)

variable {most : Nat} {w : Watch}

/-- The limit never rises. -/
theorem Bounded.limit_step_le (h : w.Bounded most) (happening : Happening) :
    (w.step happening).run.limit.current ≤ w.run.limit.current := by
  cases happening with
  | abandoned => exact Nat.le_refl _
  | reply a =>
    rw [step, Run.limit_step]
    split
    · exact h.limit_pos
    · exact Nat.le_refl _

theorem Bounded.limit_of_slowedBy (h : w.Bounded most) {a : Run.Arrival}
    (hs : w.slowedBy a = true) : (w.run.step a).limit.current = 1 := by
  rw [Run.limit_step]
  split
  · rfl
  · next hnot =>
    rw [slowedBy, Bool.or_eq_true] at hs
    exact h.limit_of_slowed (hs.resolve_right hnot)

theorem Bounded.length_settle_le (h : w.Bounded most) (a : Run.Arrival) :
    (w.run.settle a.place a.reply).inFlight.length ≤ most := by
  have hle := h.inFlight_le
  rcases w.run.inFlight_settle a.place a.reply with hrest | hnone
  · rw [hrest]
    exact (List.eraseIdx_sublist _ _).length_le.trans hle
  · rw [hnone]
    exact Nat.zero_le _

theorem Bounded.length_kept (h : w.Bounded most) (a : Run.Arrival) :
    (w.kept a).length = (w.run.settle a.place a.reply).inFlight.length := by
  rw [kept, List.length_take]
  rcases w.run.inFlight_settle a.place a.reply with hrest | hnone
  · rw [hrest, List.length_eraseIdx, List.length_eraseIdx, h.length_late, Nat.min_self]
  · rw [hnone, List.length_nil, Nat.zero_min]

/-- A late fetch that a reply leaves in flight is the only one it leaves. -/
theorem Bounded.kept_of_late (h : w.Bounded most) {a : Run.Arrival} (hmem : true ∈ w.kept a) :
    w.kept a = [true] ∧ w.slowedBy a = true := by
  have hlate : true ∈ w.late := (w.sublist_kept a).subset hmem
  have hsub := w.sublist_kept a
  rw [h.alone hlate, List.sublist_singleton] at hsub
  refine ⟨hsub.resolve_left (List.ne_nil_of_mem hmem), ?_⟩
  rw [slowedBy, h.slowed_of_late hlate, Bool.true_or]

/-- Once the source has asked to slow down, something is launched only where nothing is in
flight. -/
theorem Bounded.launched_alone (h : w.Bounded most) {a : Run.Arrival} (hs : w.slowedBy a = true)
    (hlaunched : w.launchedBy a ≠ 0) : (w.run.settle a.place a.reply).inFlight = [] := by
  have hroom := w.length_step_le a
  rw [h.limit_of_slowedBy hs] at hroom
  exact List.eq_nil_of_length_eq_zero (by omega)

theorem Bounded.slowedBy_of_late (h : w.Bounded most) {a : Run.Arrival}
    (hmem : true ∈ w.kept a ++ List.replicate (w.launchedBy a) (w.slowedBy a)) :
    w.slowedBy a = true := by
  rcases List.mem_append.mp hmem with hk | hl
  · exact (h.kept_of_late hk).2
  · exact (List.eq_of_mem_replicate hl).symm

/-- A fetch that is late is the only one in flight after a reply. -/
theorem Bounded.alone_step (h : w.Bounded most) {a : Run.Arrival}
    (hmem : true ∈ w.kept a ++ List.replicate (w.launchedBy a) (w.slowedBy a)) :
    w.kept a ++ List.replicate (w.launchedBy a) (w.slowedBy a) = [true] := by
  have hslowed := h.slowedBy_of_late hmem
  have hroom := w.length_step_le a
  rw [h.limit_of_slowedBy hslowed, ← h.length_kept a] at hroom
  rw [hslowed] at hmem ⊢
  rcases List.mem_append.mp hmem with hk | hl
  · -- A late fetch that stays in flight leaves no room for another.
    rw [(h.kept_of_late hk).1, List.length_singleton] at hroom
    have hnone : w.launchedBy a = 0 := by omega
    rw [(h.kept_of_late hk).1, hnone, List.replicate_zero, List.append_nil]
  · have hpos : w.launchedBy a ≠ 0 := (List.mem_replicate.mp hl).1
    have hkept : (w.kept a).length = 0 := by
      rw [h.length_kept a, h.launched_alone hslowed hpos, List.length_nil]
    have hone : w.launchedBy a = 1 := by omega
    rw [List.eq_nil_of_length_eq_zero hkept, hone]
    rfl

theorem Bounded.step (h : w.Bounded most) (happening : Happening) :
    (w.step happening).Bounded most := by
  cases happening with
  | abandoned =>
    exact ⟨h.limit_pos, h.limit_le, h.inFlight_le, h.length_late, h.limit_of_slowed,
      h.slowed_of_late, h.alone⟩
  | reply a =>
    have hle := (h.limit_step_le (.reply a)).trans h.limit_le
    refine ⟨Run.limit_pos_settle h.limit_pos _ _, hle, ?_, ?_, h.limit_of_slowedBy,
      h.slowedBy_of_late, h.alone_step⟩
    · have hfill := w.length_step_le a
      rw [← length_step] at hfill
      exact hfill.trans (Nat.max_le.mpr ⟨hle, h.length_settle_le a⟩)
    · rw [Watch.step, List.length_append, List.length_replicate, h.length_kept, length_step]

theorem Bounded.after (h : w.Bounded most) (happenings : List Happening) :
    (w.after happenings).Bounded most := by
  induction happenings generalizing w with
  | nil => exact h
  | cons happening rest ih => exact ih (h.step happening)

theorem Bounded.limit_after_le (h : w.Bounded most) (happenings : List Happening) :
    (w.after happenings).run.limit.current ≤ w.run.limit.current := by
  induction happenings generalizing w with
  | nil => exact Nat.le_refl _
  | cons happening rest ih => exact (ih (h.step happening)).trans (h.limit_step_le happening)

/-! ### Several runs -/

section Together

variable {ι : Type} [DecidableEq ι]

/-- Several runs while things happen to them, each to one of them. -/
def together (runs : ι → Watch) (events : List (ι × Happening)) : ι → Watch :=
  events.foldl (fun runs event ↦ Function.update runs event.1 ((runs event.1).step event.2)) runs

/-- What happens to one of the runs. -/
def own (i : ι) (events : List (ι × Happening)) : List Happening :=
  (events.filter (·.1 = i)).map Prod.snd

theorem own_cons (i : ι) (event : ι × Happening) (rest : List (ι × Happening)) :
    own i (event :: rest) = if event.1 = i then event.2 :: own i rest else own i rest := by
  rw [own, List.filter_cons]
  by_cases h : event.1 = i
  · rw [if_pos h, if_pos (decide_eq_true h)]
    rfl
  · rw [if_neg h, if_neg (by simpa using h)]
    rfl

/-- Each run goes the way that it goes alone. -/
theorem together_eq (runs : ι → Watch) (events : List (ι × Happening)) (i : ι) :
    together runs events i = (runs i).after (own i events) := by
  induction events generalizing runs with
  | nil => rfl
  | cons event rest ih =>
    rw [together, List.foldl_cons, ← together, ih, own_cons]
    by_cases h : event.1 = i
    · subst h
      rw [Function.update_self, if_pos rfl, after_cons]
    · rw [Function.update_of_ne (Ne.symm h), if_neg h]

end Together

/-- Whatever happens to a run in whatever order, it has at most as many fetches in flight as its
limit was at first, and its limit never rises. Once the source has asked to slow down nothing is
launched while anything is in flight, so that a fetch launched since is alone. Each run is launched
with a limit of its own, whatever other runs have made of the sources, and goes its own way among
them. -/
theorem in_flight_bounded_and_throttled (settings : RunSettings) (provider : String)
    (plan : List Range) (happenings : List Happening) :
    let w := (start settings provider plan).after happenings
    w.run.inFlight.length ≤ max 1 settings.maxConcurrency ∧
      (∀ more, (w.after more).run.limit.current ≤ w.run.limit.current) ∧
      (∀ a, w.slowedBy a = true → w.launchedBy a ≠ 0 →
        (w.run.settle a.place a.reply).inFlight = []) ∧
      (w.late.length = w.run.inFlight.length ∧ (true ∈ w.late → w.run.inFlight.length = 1)) ∧
      (∀ {σ : Type} (o : Outfit σ) (p : Provider) (source : σ), o.settings.run = settings →
        p.id = provider →
          (o.launch p plan source).timeline.run = (start settings provider plan).run) ∧
      ∀ {ι : Type} [DecidableEq ι] (runs : ι → Watch) (events : List (ι × Happening)) (i : ι),
        runs i = start settings provider plan → own i events = happenings →
          together runs events i = w := by
  intro w
  have h : w.Bounded _ := (bounded_start settings provider plan).after happenings
  refine ⟨h.inFlight_le, h.limit_after_le, fun _ ↦ h.launched_alone, ⟨h.length_late, ?_⟩, ?_, ?_⟩
  · intro hlate
    rw [← h.length_late, h.alone hlate, List.length_singleton]
  · rintro σ o p source rfl rfl
    exact o.run_launch p plan source
  · intro ι _ runs events i hrun hown
    rw [together_eq, hrun, hown]

/-- Two fetches overlap when one of them is asked to slow down. The other stays in flight, and what
is launched once it has its reply is alone. -/
example :
    let months := (Month.january 2020).successive 3
    let w := start { maxConcurrency := 2 } "p" (months.map (Range.single "DR"))
    let slow := w.after [.reply ⟨0, .refused .rateLimited⟩]
    (w.late = [false, false] ∧ slow.late = [false]) ∧
      (slow.after [.reply ⟨0, .records []⟩]).late = [true] := by
  decide

end Watch
end UsageReports
