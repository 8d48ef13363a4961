import Mathlib.Data.List.Perm.Basic
import UsageReports.Proofs.Trigger.Course

/-!
# The delivery of firings

A timer notes a firing with its trigger, and sends it in a later step. In between it holds the
firing. However the events of a scheduler follow each other, every firing that was noted was sent
once, is held, or was lost with a stale timer that was cut off while it held the firing.
-/

namespace UsageReports

/-- The firing that a timer has noted and not sent. -/
def Timer.held? (t : Timer) : Option Firing :=
  match t.stage with
  | .sending f => some f
  | _ => none

namespace Scheduler

/-- The firings that timers have noted and not sent. -/
def held (s : Scheduler) : List Firing := s.timers.filterMap Timer.held?

/-- The firing that the timer of a generation has noted and not sent, if there is one. -/
def heldBy (s : Scheduler) (generation : Nat) : List Firing :=
  ((s.timer? generation).bind Timer.held?).toList

/-- The firing that an event notes: the timer that takes a step holds it from then on. -/
def noted (s : Scheduler) : SchedulerEvent → List Firing
  | .fire generation =>
    if s.heldBy generation = [] then (s.fire generation).heldBy generation else []
  | _ => []

/-- The firings that an event sends. -/
def delivered (s : Scheduler) (e : SchedulerEvent) : List Firing :=
  (s.step e).sent.drop s.sent.length

/-- The firing that an event takes. -/
def received (s : Scheduler) : SchedulerEvent → List Firing
  | .receive => s.receive.1.toList
  | _ => []

/-- The firing that is lost with the timer that an event cuts off. -/
def lost (s : Scheduler) : SchedulerEvent → List Firing
  | .cutOff generation =>
    if ((s.cutOff generation).timer? generation).isNone then s.heldBy generation else []
  | _ => []

variable {s : Scheduler}

/-! ## What timers hold -/

theorem heldBy_eq {generation : Nat} {t : Timer} (ht : s.timer? generation = some t) :
    s.heldBy generation = t.held?.toList := by
  rw [heldBy, ht]
  rfl

theorem heldBy_endTimer (s : Scheduler) (generation : Nat) :
    (s.endTimer generation).heldBy generation = [] := by
  rw [heldBy, timer?, endTimer, Keyed.get?_erase_self]
  rfl

/-- What all timers hold is what one of them holds, and what the others hold. -/
theorem Orderly.held_cases (h : s.Orderly) {generation : Nat} {t : Timer}
    (ht : s.timer? generation = some t) :
    ∃ others : List Firing, s.held.Perm (t.held?.toList ++ others) ∧
      (∀ t', t'.generation = t.generation →
        ((Keyed.put Timer.generation t' s.timers).filterMap Timer.held?).Perm
          (t'.held?.toList ++ others)) ∧
      (s.endTimer generation).held = others := by
  obtain ⟨before, after, hsplit, hput, herase⟩ := Keyed.exists_split h.timers ht
  have hone : ∀ t' : Timer, ((before ++ t' :: after).filterMap Timer.held?).Perm
      (t'.held?.toList ++ (before ++ after).filterMap Timer.held?) := by
    intro t'
    refine (List.Perm.filterMap _ List.perm_middle).trans ?_
    rw [List.filterMap_cons]
    cases t'.held? <;> exact List.Perm.refl _
  refine ⟨(before ++ after).filterMap Timer.held?, ?_, ?_, ?_⟩
  · rw [held, hsplit]
    exact hone t
  · intro t' hg
    rw [hput t' (hg.trans (generation_of_timer? ht))]
    exact hone t'
  · rw [held, Scheduler.endTimer, herase]

theorem held_schedule (s : Scheduler) (t : Trigger) : (s.schedule t).held = s.held := by
  rw [held, schedule, List.filterMap_append]
  exact List.append_nil _

theorem held_place (s : Scheduler) (t : Trigger) (now : Instant) :
    (s.place t now).2.held = s.held := by
  rcases place_cases s t now with ⟨-, he⟩ | ⟨-, he⟩
  · rw [he]
    rfl
  · rw [he, held_schedule]
    rfl

/-- Events that are no steps of timers leave what the timers hold as it is. -/
theorem held_step (s : Scheduler) {e : SchedulerEvent} (he : e.timer? = none) :
    (s.step e).held = s.held := by
  cases e with
  | start =>
    rcases start_cases s with he | he | ⟨triggers, -, -, he⟩ <;> rw [step, he]
    · rfl
    · rw [foldl_schedule_eq held held_schedule]
      rfl
  | stop =>
    rw [step, stop]
    split <;> rfl
  | upsert t now =>
    rcases upsert_cases s t now with he | he <;> rw [step, he]
    exact held_place s t now
  | reconfigure tenant interval start now =>
    rcases reconfigure_cases s tenant interval start now with he | he | ⟨_, -, he⟩ <;>
      rw [step, he]
    · rfl
    · rw [held_place]
      rfl
  | erase tenant =>
    rcases erase_cases s tenant with ⟨-, he⟩ | he <;> rw [step, he] <;> rfl
  | look tenant => rfl
  | receive =>
    rw [step, receive]
    split <;> rfl
  | arm | fire | send | cutOff => contradiction

/-! ## What is sent -/

theorem sent_place (s : Scheduler) (t : Trigger) (now : Instant) :
    (s.place t now).2.sent = s.sent := by
  rcases place_cases s t now with ⟨-, he⟩ | ⟨-, he⟩ <;> rw [he]
  rfl

/-- Only a step that sends adds to what is sent, and only taking a firing takes from it. -/
theorem sent_step (s : Scheduler) {e : SchedulerEvent} (hsend : ∀ generation, e ≠ .send generation)
    (hreceive : e ≠ .receive) : (s.step e).sent = s.sent := by
  cases e with
  | start =>
    rcases start_cases s with he | he | ⟨triggers, -, -, he⟩ <;> rw [step, he]
    rw [foldl_schedule_eq sent fun _ _ ↦ rfl]
  | stop =>
    rw [step, stop]
    split <;> rfl
  | upsert t now =>
    rcases upsert_cases s t now with he | he <;> rw [step, he]
    exact sent_place s t now
  | reconfigure tenant interval start now =>
    rcases reconfigure_cases s tenant interval start now with he | he | ⟨_, -, he⟩ <;>
      rw [step, he]
    rw [sent_place]
  | erase tenant =>
    rcases erase_cases s tenant with ⟨-, he⟩ | he <;> rw [step, he]
  | look tenant => rfl
  | arm generation now clock =>
    rcases arm_cases s generation now clock with he | ⟨t, -, -, ⟨-, he⟩ | ⟨-, due, he⟩⟩ <;>
      rw [step, he] <;> rfl
  | fire generation =>
    rcases fire_cases s generation with he | ⟨t, fireAt, due, -, -, ⟨-, he⟩ | ⟨-, he⟩⟩ <;>
      rw [step, he] <;> rfl
  | cutOff generation =>
    rcases cutOff_cases s generation with he | ⟨t, -, -, he⟩ <;> rw [step, he]
    rfl
  | send generation => exact absurd rfl (hsend generation)
  | receive => exact absurd rfl hreceive

theorem delivered_of_ne_send (s : Scheduler) {e : SchedulerEvent}
    (hsend : ∀ generation, e ≠ .send generation) : s.delivered e = [] := by
  by_cases he : e = .receive
  · subst he
    refine List.drop_eq_nil_of_le ?_
    rw [step, receive]
    split <;> simp [*]
  · rw [delivered, sent_step s hsend he, List.drop_length]

/-- What is sent is taken in its order: an event takes the first of it, or adds to its end. -/
theorem received_append_sent (hopen : s.isClosed = false) (e : SchedulerEvent) :
    s.received e ++ (s.step e).sent = s.sent ++ s.delivered e := by
  cases e with
  | receive =>
    rw [delivered_of_ne_send s (fun _ ↦ SchedulerEvent.noConfusion), received, step, receive]
    cases hs : s.sent <;> simp [hs]
  | send generation =>
    rw [delivered, step]
    rcases send_cases hopen generation with he | ⟨t, f, -, -, -, he⟩ <;> rw [he] <;>
      simp [received]
  | _ =>
    rw [delivered_of_ne_send s (fun _ ↦ SchedulerEvent.noConfusion),
      sent_step s (fun _ ↦ SchedulerEvent.noConfusion) SchedulerEvent.noConfusion, received,
      List.append_nil, List.nil_append]
    all_goals exact fun h ↦ SchedulerEvent.noConfusion h

/-! ## The account -/

/-- A step of a timer notes nothing, or the firing for which a live timer has waited. -/
theorem noted_cases (s : Scheduler) (generation : Nat) :
    s.noted (.fire generation) = [] ∧
        (s.fire generation = s ∨
          ∃ t, s.timer? generation = some t ∧ t.held? = none ∧ s.isLive t = false ∧
            s.fire generation = s.endTimer generation) ∨
      ∃ t fireAt due, s.timer? generation = some t ∧ t.stage = .waiting fireAt due ∧
        s.isLive t = true ∧
        s.noted (.fire generation) = [⟨t.trigger.tenant, t.trigger.interval, fireAt⟩] ∧
        s.fire generation =
          { s with store := (s.store.put (fired t fireAt).trigger).2 }.update
            (fired t fireAt) none := by
  rw [noted]
  rcases fire_cases s generation with he | ⟨t, fireAt, due, ht, hstage, hcases⟩
  · refine Or.inl ⟨?_, Or.inl he⟩
    rw [he]
    split
    · assumption
    · rfl
  · have hnone : t.held? = none := by rw [Timer.held?, hstage]
    rw [heldBy_eq ht, hnone, Option.toList_none, if_pos rfl]
    rcases hcases with ⟨hl, he⟩ | ⟨hl, he⟩
    · exact Or.inl ⟨by rw [he, heldBy_endTimer], Or.inr ⟨t, ht, hnone, hl, he⟩⟩
    · have hfound : (s.fire generation).timer? generation = some (fired t fireAt) := by
        rw [he, ← generation_of_timer? ht]
        exact Keyed.get?_put_self Timer.generation (fired t fireAt) s.timers
      exact Or.inr ⟨t, fireAt, due, ht, hstage, hl, heldBy_eq hfound, he⟩

/-- A firing is noted with the trigger that is scheduled. -/
theorem scheduled?_of_noted {e : SchedulerEvent} {f : Firing} (hf : f ∈ s.noted e) :
    ∃ c, (s.step e).scheduled? f.tenant = some c ∧ c.trigger.lastFired = some f.time := by
  cases e with
  | fire generation =>
    rcases noted_cases s generation with ⟨hnone, -⟩ | ⟨t, fireAt, due, -, -, -, hnoted, he⟩
    · rw [hnone] at hf
      contradiction
    · rw [hnoted] at hf
      obtain rfl := List.mem_singleton.mp hf
      refine ⟨⟨t.generation, (fired t fireAt).trigger, none⟩, ?_, rfl⟩
      rw [step, he, scheduled?_update]
      exact if_pos rfl
  | _ => contradiction

/-- The trigger that is scheduled for a tenant. -/
def trigger? (s : Scheduler) (tenant : String) : Option Trigger :=
  (s.scheduled? tenant).map Scheduled.trigger

/-- A timer that plans when to fire changes no trigger. -/
theorem Orderly.trigger?_arm (h : s.Orderly) (generation : Nat) (now : Instant) (clock : Nat)
    (tenant : String) : (s.arm generation now clock).trigger? tenant = s.trigger? tenant := by
  rcases arm_cases s generation now clock with he | ⟨t, ht, -, ⟨-, he⟩ | ⟨hl, due, he⟩⟩ <;> rw [he]
  · rfl
  · obtain ⟨next, hc⟩ := h.scheduled_of_live ht hl
    rw [trigger?, trigger?, scheduled?_update]
    split
    · next htenant =>
      rw [← htenant, hc]
      rfl
    · rfl

/-- A step of a timer that notes nothing leaves the store and all triggers as they are. -/
theorem Orderly.kept_of_noted_nil (h : s.Orderly) {e : SchedulerEvent}
    (he : e.timer?.isSome = true) (hnone : s.noted e = []) :
    (s.step e).store = s.store ∧ ∀ tenant, (s.step e).trigger? tenant = s.trigger? tenant := by
  cases e with
  | arm generation now clock =>
    refine ⟨?_, h.trigger?_arm generation now clock⟩
    rcases arm_cases s generation now clock with he | ⟨t, -, -, ⟨-, he⟩ | ⟨-, due, he⟩⟩ <;>
      rw [Scheduler.step, he] <;> rfl
  | fire generation =>
    rcases noted_cases s generation with ⟨-, he | ⟨t, -, -, -, he⟩⟩ | ⟨t, _, _, -, -, -, hnoted, -⟩
    · rw [Scheduler.step, he]
      exact ⟨rfl, fun _ ↦ rfl⟩
    · rw [Scheduler.step, he]
      exact ⟨rfl, fun _ ↦ rfl⟩
    · rw [hnoted] at hnone
      contradiction
  | send generation =>
    rcases send_cases h.isOpen generation with he | ⟨t, f, -, -, -, he⟩ <;>
      rw [Scheduler.step, he] <;> exact ⟨rfl, fun _ ↦ rfl⟩
  | cutOff generation =>
    rcases cutOff_cases s generation with he | ⟨t, -, -, he⟩ <;> rw [Scheduler.step, he] <;>
      exact ⟨rfl, fun _ ↦ rfl⟩
  | _ => contradiction

/-- What is lost was held by a stale timer. -/
theorem stale_of_lost {e : SchedulerEvent} {f : Firing} (hf : f ∈ s.lost e) :
    ∃ generation t, e = .cutOff generation ∧ s.timer? generation = some t ∧
      t.held? = some f ∧ s.isLive t = false := by
  cases e with
  | cutOff generation =>
    rw [lost] at hf
    split at hf
    · next hnone =>
      rcases cutOff_cases s generation with he | ⟨t, ht, hl, -⟩
      · rw [he, Option.isNone_iff_eq_none] at hnone
        rw [heldBy, hnone] at hf
        contradiction
      · rw [heldBy_eq ht, Option.mem_toList] at hf
        exact ⟨generation, t, rfl, ht, hf, hl⟩
    · contradiction
  | _ => contradiction

/-- A timer that plans when to fire holds what it held: nothing. -/
theorem Orderly.perm_arm (h : s.Orderly) (generation : Nat) (now : Instant) (clock : Nat) :
    s.held.Perm (s.arm generation now clock).held := by
  rcases arm_cases s generation now clock with he | ⟨t, ht, hstage, hcases⟩
  · rw [he]
  · obtain ⟨others, hheld, hput, hend⟩ := h.held_cases ht
    have hnone : t.held? = none := by rw [Timer.held?, hstage]
    rw [hnone, Option.toList_none, List.nil_append] at hheld
    rcases hcases with ⟨-, he⟩ | ⟨-, due, he⟩ <;> rw [he]
    · rwa [hend]
    · let t' : Timer := { t with stage := .waiting (t.trigger.nextFire now) due }
      exact hheld.trans (hput t' rfl).symm

/-- A timer that has waited holds the firing that it notes. -/
theorem Orderly.perm_fire (h : s.Orderly) (generation : Nat) :
    (s.held ++ s.noted (.fire generation)).Perm (s.fire generation).held := by
  rcases noted_cases s generation with
    ⟨hnoted, he | ⟨t, ht, hnone, -, he⟩⟩ | ⟨t, fireAt, due, ht, hstage, -, hnoted, he⟩ <;>
    rw [hnoted, he]
  · rw [List.append_nil]
  · obtain ⟨others, hheld, -, hend⟩ := h.held_cases ht
    rwa [hnone, Option.toList_none, List.nil_append, ← hend, ← List.append_nil s.held] at hheld
  · obtain ⟨others, hheld, hput, -⟩ := h.held_cases ht
    have hnone : t.held? = none := by rw [Timer.held?, hstage]
    rw [hnone, Option.toList_none, List.nil_append] at hheld
    exact (hheld.append_right _).trans
      (List.perm_append_comm.trans (hput (fired t fireAt) rfl).symm)

/-- A timer that sends its firing holds it no more. -/
theorem Orderly.perm_send (h : s.Orderly) (generation : Nat) :
    s.held.Perm ((s.send generation).held ++ s.delivered (.send generation)) := by
  rw [delivered, Scheduler.step]
  rcases send_cases h.isOpen generation with he | ⟨t, f, ht, hstage, -, he⟩
  · rw [he, List.drop_length, List.append_nil]
  · obtain ⟨others, hheld, hput, -⟩ := h.held_cases ht
    have hf : t.held? = some f := by rw [Timer.held?, hstage]
    rw [hf, Option.toList_some] at hheld
    have hafter : (s.send generation).held.Perm others := by
      rw [he]
      exact hput { t with stage := .planning } rfl
    rw [he, List.drop_left, ← he]
    exact hheld.trans (List.perm_append_comm.trans (hafter.append_right _).symm)

/-- With a timer that is cut off the firing is lost that it held. -/
theorem Orderly.perm_cutOff (h : s.Orderly) (generation : Nat) :
    s.held.Perm ((s.cutOff generation).held ++ s.lost (.cutOff generation)) := by
  rw [lost]
  rcases cutOff_cases s generation with he | ⟨t, ht, -, he⟩
  · have hnone : (s.timer? generation).isNone = true → s.heldBy generation = [] := by
      intro hn
      rw [heldBy, Option.isNone_iff_eq_none.mp hn]
      rfl
    rw [he]
    split
    · next hn => rw [hnone hn, List.append_nil]
    · rw [List.append_nil]
  · obtain ⟨others, hheld, -, hend⟩ := h.held_cases ht
    have hgone : ((s.endTimer generation).timer? generation).isNone = true := by
      rw [timer?, Scheduler.endTimer, Keyed.get?_erase_self]
      rfl
    rw [he, if_pos hgone, hend, heldBy_eq ht]
    exact hheld.trans List.perm_append_comm

/-- What the timers hold and what is noted is held, sent or lost after an event. -/
theorem Orderly.perm_step (h : s.Orderly) (e : SchedulerEvent) :
    (s.held ++ s.noted e).Perm ((s.step e).held ++ (s.delivered e ++ s.lost e)) := by
  cases e with
  | send generation =>
    simp only [noted, lost, List.append_nil]
    exact h.perm_send generation
  | arm generation now clock =>
    rw [delivered_of_ne_send s (fun _ ↦ SchedulerEvent.noConfusion)]
    simp only [noted, lost, List.append_nil]
    exact h.perm_arm generation now clock
  | fire generation =>
    rw [delivered_of_ne_send s (fun _ ↦ SchedulerEvent.noConfusion)]
    simp only [lost, List.append_nil]
    exact h.perm_fire generation
  | cutOff generation =>
    rw [delivered_of_ne_send s (fun _ ↦ SchedulerEvent.noConfusion)]
    simp only [noted, List.append_nil, List.nil_append]
    exact h.perm_cutOff generation
  | _ =>
    rw [delivered_of_ne_send s (fun _ ↦ SchedulerEvent.noConfusion), held_step s rfl]
    simp only [noted, lost, List.append_nil]
    exact List.Perm.refl _

theorem Orderly.perm_after (h : s.Orderly) (events : List SchedulerEvent) :
    (s.held ++ s.collect noted events).Perm
      ((s.after events).held ++ (s.collect delivered events ++ s.collect lost events)) := by
  induction events generalizing s with
  | nil => simp [collect]
  | cons e rest ih =>
    have hstep := (h.perm_step e).append_right ((s.step e).collect noted rest)
    have hrest := (ih (h.step e)).append_right (s.delivered e ++ s.lost e)
    rw [List.perm_iff_count] at hstep hrest ⊢
    intro f
    have hstep := hstep f
    have hrest := hrest f
    simp only [collect, after_cons, List.count_append] at hstep hrest ⊢
    omega

theorem received_append_sent_after (h : s.Orderly) (events : List SchedulerEvent) :
    s.collect received events ++ (s.after events).sent = s.sent ++ s.collect delivered events := by
  induction events generalizing s with
  | nil => simp [collect]
  | cons e rest ih =>
    rw [collect, collect, after_cons, List.append_assoc, ih (h.step e), ← List.append_assoc,
      received_append_sent h.isOpen, List.append_assoc]

/-- Whatever happens to a scheduler, the firings that it noted are, each as often as it was noted,
those that it sent, those that its timers hold, and those that were lost; what it sent was taken in
its order or waits to be taken. A firing is noted with the trigger that is scheduled; a step of a
timer that notes none leaves the store and all triggers as they are. A firing is lost only where a
timer that was replaced, deleted or stopped is cut off while it holds the firing. -/
theorem noted_perm_held_delivered_lost (store : TriggerStore) (events : List SchedulerEvent) :
    let initial := ofStore store
    let s := initial.after events
    (initial.collect noted events).Perm
      (s.held ++ (initial.collect delivered events ++ initial.collect lost events)) ∧
    initial.collect delivered events = initial.collect received events ++ s.sent ∧
    ∀ e,
      (∀ f ∈ s.noted e, ∃ c, (s.step e).scheduled? f.tenant = some c ∧
        c.trigger.lastFired = some f.time) ∧
      (e.timer?.isSome = true → s.noted e = [] → (s.step e).store = s.store ∧
        ∀ tenant, (s.step e).trigger? tenant = s.trigger? tenant) ∧
      ∀ f ∈ s.lost e, ∃ generation t, e = .cutOff generation ∧
        s.timer? generation = some t ∧ t.held? = some f ∧ s.isLive t = false := by
  intro initial s
  have h : initial.Orderly := Orderly.ofStore store
  exact ⟨h.perm_after events, (received_append_sent_after h events).symm,
    fun e ↦ ⟨fun f hf ↦ scheduled?_of_noted hf, (h.after events).kept_of_noted_nil,
      fun f hf ↦ stale_of_lost hf⟩⟩

/-- A timer fires until nothing more can be sent and once again, and is stopped then. -/
def stoppedWhileFull : List SchedulerEvent :=
  let round : List SchedulerEvent := [.arm 1 default 0, .fire 1, .send 1]
  .start :: (List.replicate (maxSent + 1) round).flatten ++ [.stop, .cutOff 1]

/-- The firing that a timer holds when it is cut off is neither sent nor held any more. -/
theorem noted_and_lost :
    let daily : Trigger := { tenant := "a", interval := .daily, start := default }
    let initial := ofStore { archive := .memory ⟨[daily]⟩ }
    ∃ f ∈ initial.collect noted stoppedWhileFull,
      f ∉ initial.collect delivered stoppedWhileFull ∧
        f ∉ (initial.after stoppedWhileFull).held :=
  ⟨⟨"a", .daily, ⟨64 * 86400, 0, by decide⟩⟩, by decide +kernel⟩

end Scheduler
end UsageReports
