import UsageReports.Harvest.Work

/-!
# A run in time

A run against a source, on a clock that moves only while everything waits. A fetch that was asked
for again waits first, longer each time; the call itself takes no time. Replies are taken in in the
order of the fetches in flight.
-/

namespace UsageReports

/-- A fetch in flight: when it is due, and the reply once the source was called. -/
structure Flight where
  due : Nat
  reply : Option Reply

/-- Whether a fetch waits for its time. -/
def Flight.isWaiting (f : Flight) : Bool := f.reply.isNone

/-- A call to a source: what was asked for, and when, in milliseconds. -/
structure Call where
  range : Range
  time : Nat

/-- A run, the times of its fetches in flight, and the state of its source. -/
structure Timeline (σ : Type) where
  run : Run
  /-- One for each fetch in flight. -/
  flights : List Flight
  now : Nat
  source : σ
  calls : List Call

namespace Timeline

variable {σ : Type}

/-- Launch what the limit allows. -/
def launch (t : Timeline σ) : Timeline σ :=
  let run := t.run.fill
  let launched := run.inFlight.drop t.run.inFlight.length
  { t with
    run
    flights := t.flights ++
      launched.map fun task => ⟨t.now + run.settings.backoff.delay task.attempts, none⟩ }

/-- The start of a run. -/
def start (run : Run) (source : σ) : Timeline σ := launch ⟨run, [], 0, source, []⟩

/-- Call the source for the fetches that are due. -/
def callEach (fetch : σ → Range → Reply × σ) (now : Nat) :
    List (FetchTask × Flight) → σ → List Flight × List Call × σ
  | [], source => ([], [], source)
  | (task, flight) :: rest, source =>
    if flight.isWaiting && flight.due ≤ now then
      let (reply, source) := fetch source task.range
      let (flights, calls, source) := callEach fetch now rest source
      ({ flight with reply := some reply } :: flights, ⟨task.range, now⟩ :: calls, source)
    else
      let (flights, calls, source) := callEach fetch now rest source
      (flight :: flights, calls, source)

/-- Let time pass until a fetch is due, and call the source for all that are due then. -/
def callNext (fetch : σ → Range → Reply × σ) (t : Timeline σ) : Timeline σ :=
  match ((t.flights.filter Flight.isWaiting).map Flight.due).min? with
  | none => t
  | some due =>
    let now := max t.now due
    let (flights, calls, source) := callEach fetch now (t.run.inFlight.zip t.flights) t.source
    { t with flights, now, source, calls := t.calls ++ calls }

/-- Let time pass until the source was called for every fetch in flight. -/
def callAll (fetch : σ → Range → Reply × σ) (t : Timeline σ) : Timeline σ :=
  t.flights.foldl (fun t _ => t.callNext fetch) t

/-- The first fetch in flight that has its reply. -/
def replied? (t : Timeline σ) : Option (Nat × Reply) :=
  (t.flights.zipIdx).findSome? fun (flight, i) => flight.reply.map fun reply => (i, reply)

/-- Take in the reply to a fetch in flight. -/
def settle (t : Timeline σ) (i : Nat) (reply : Reply) : Timeline σ :=
  let run := t.run.settle i reply
  { t with run, flights := (t.flights.eraseIdx i).take run.inFlight.length }

/-- Let time pass until some fetch in flight has its reply. -/
def await (fetch : σ → Range → Reply × σ) (t : Timeline σ) : Timeline σ :=
  if t.replied?.isSome then t else t.callNext fetch

/-- Waiting changes nothing about the run. -/
theorem run_await (fetch : σ → Range → Reply × σ) (t : Timeline σ) : (t.await fetch).run = t.run := by
  unfold await callNext
  split
  · rfl
  · split <;> rfl

/-- Let the run come to its end. -/
def finish (fetch : σ → Range → Reply × σ) (t : Timeline σ) : Timeline σ :=
  let waited := t.await fetch
  match waited.replied? with
  | none => waited
  | some (i, reply) =>
    if _ : i < waited.run.inFlight.length then ((waited.settle i reply).launch).finish fetch
    else waited
termination_by t.run.work
decreasing_by
  rename_i h
  have hwork := (t.await fetch).run.work_settle_lt h reply
  rw [← run_await fetch t]
  simpa only [launch, settle, Run.work_fill] using hwork

end Timeline

end UsageReports
