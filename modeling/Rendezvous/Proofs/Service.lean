import Rendezvous.Proofs.Settings.Validity
import Rendezvous.Proofs.Signaling.Operation
import Rendezvous.Service

/-!
# What a service needs of its settings

Settings are accepted with any positive numbers of 64 bits, but two of these numbers are put to a
use that has a smaller limit. The task that sweeps is due for the first time one interval after it
was started, and that has to be a time that a clock can show. A channel can only be made for so
many frames. Beyond its limit the task, or the connection, is over as soon as it begins, while
the rest of the service goes on.

Whether the task lives is decided when it is started, since nothing but its start and its stop
touches what it was started with (`plan_step`). So in a run only the clock at each start matters,
and in the end the two limits are all that a service needs (`lasts_iff`).
-/

namespace Rendezvous

open Signaling (Inbound)
open WebSocket (Socket)

namespace Settings

/-- The variable, where it is there, writes no number beyond the bound. -/
def AtMost (vars : Variables) (name : String) (bound : Nat) : Prop :=
  ∀ text n, vars name = some text → Decimal.Writes text.toList n → n ≤ bound

variable {vars : Variables} {name text : String} {fallback value bound : Nat}

/-- Where the default is within the bound, only the variable can go beyond it. -/
theorem le_iff_atMost (small : fallback ≤ bound)
    (stands : StandsFor vars name fallback PositiveWord value) :
    value ≤ bound ↔ AtMost vars name bound := by
  unfold StandsFor at stands
  unfold AtMost
  cases given : vars name with
  | none =>
    rw [given] at stands
    have isFallback : value = fallback := stands
    rw [isFallback]
    exact ⟨fun _ _ _ => nofun, fun _ => small⟩
  | some text =>
    rw [given] at stands
    have word : PositiveWord text value := stands
    constructor
    · rintro within _ n ⟨⟩ writes
      rw [writes_unique writes word.writes]
      exact within
    · intro all
      exact all text value rfl word.writes

/-- A variable that is set to a number is bounded if the number is. -/
theorem atMost_iff_of_word (given : vars name = some text) (word : Decimal.word text = .ok value) :
    AtMost vars name bound ↔ value ≤ bound := by
  have writes := (word_eq_ok_iff.mp word).1
  constructor
  · intro all
    exact all text value given writes
  · intro within other n given' writes'
    rw [given] at given'
    cases given'
    rw [writes_unique writes' writes]
    exact within

end Settings

namespace Service

/-! ## Runs of the service -/

/-- What can happen to a service. Something is asked of the relay; a connection is made, and a
stream served; a request comes, or a WebSocket; its client does something, or is given what it has
been sent; the task that sweeps is started or stopped. In between everything comes to rest, and
time passes. -/
inductive Event where
  | operate (op : Operation)
  | connect (capacity : Nat)
  | serve (id : ConnId) (waiting : List Inbound) (ended : Bool)
  | prepare (id : ConnId)
  | beginReading (id : ConnId)
  | offer (id : ConnId) (x : Inbound)
  | hangUp (id : ConnId)
  | request (r : Http.Request)
  | openSocket (reading : Bool)
  | receive (id : ConnId) (m : WebSocket.Message)
  | cut (id : ConnId)
  | resume (id : ConnId)
  | take (id : ConnId)
  | hand (id : ConnId)
  | forget (id : ConnId)
  | setReady (ready : Bool)
  | startSweeps
  | stopSweeps
  | settle
  | jump (milliseconds : Nat)
  | wait (milliseconds : Nat)

/-- What an event makes of a service. -/
def step (s : Service) : Event → Service
  | .operate op => { s with relay := (s.relay.operate op).2 }
  | .connect capacity => (s.connect capacity).2
  | .serve id waiting ended => s.serve id waiting ended
  | .prepare id => s.prepare id
  | .beginReading id => s.beginReading id
  | .offer id x => s.offer id x
  | .hangUp id => s.hangUp id
  | .request r => (s.request r).2
  | .openSocket reading => (s.openSocket reading).2
  | .receive id m => s.changeSocket id (·.receive m)
  | .cut id => s.changeSocket id Socket.cut
  | .resume id => s.changeSocket id Socket.resume
  | .take id => s.changeSocket id (·.takeSeen.2)
  | .hand id => (s.hand id).2
  | .forget id => s.forget id
  | .setReady ready => { s with ready }
  | .startSweeps => s.startSweeps
  | .stopSweeps => s.stopSweeps
  | .settle => s.settle
  | .jump milliseconds => s.jump milliseconds
  | .wait milliseconds => s.wait milliseconds

/-- What a list of events makes of a service. -/
def run (s : Service) (events : List Event) : Service := events.foldl step s

@[simp] theorem run_nil (s : Service) : s.run [] = s := rfl

theorem run_snoc (s : Service) (events : List Event) (ev : Event) :
    s.run (events ++ [ev]) = (s.run events).step ev := List.foldl_append ..

/-! ## What the task that sweeps goes by -/

/-- The settings, whether the task that sweeps has been started and not been stopped, and, while
it lives, the interval and the limit it goes by. -/
def plan (s : Service) : Settings × Bool × Option (Nat × Nat) :=
  (s.settings, s.sweeping, s.timer.map fun t => (t.interval, t.maxIdle))

theorem plan_settle (s : Service) : s.settle.plan = s.plan := rfl

theorem plan_fire (s : Service) : s.fire.plan = s.plan := by
  have pace : ∀ (t : Sweep) (r : Relay),
      (t.poll r).1.interval = t.interval ∧ (t.poll r).1.maxIdle = t.maxIdle := by
    intro t r
    unfold Sweep.poll
    split <;> exact ⟨rfl, rfl⟩
  unfold fire
  -- Sockets that expire are no part of the plan, so only the timer is looked at.
  cases timed : s.timer with
  | none => simp only [plan, timed, Option.map_none]
  | some t => simp only [plan, timed, Option.map_some, pace t s.relay]

/-- Moving the clock fires the sweeps that are due, and none of it changes the plan. -/
theorem plan_moveTo (s : Service) (time : Instant) : (s.moveTo time).plan = s.plan := by
  rw [moveTo, plan_settle, plan_fire]
  rfl

/-- However many sweeps are due before the target, the plan stays. -/
theorem plan_runTo (target : Instant) (fuel : Nat) (s : Service) :
    (runTo target fuel s).plan = s.plan := by
  induction fuel generalizing s with
  | zero => exact plan_moveTo s target
  | succ fuel ih =>
    unfold runTo
    split
    · rw [ih, plan_moveTo]
    · exact plan_moveTo s target

theorem plan_openSocket (s : Service) (reading : Bool) :
    (s.openSocket reading).2.plan = s.plan := by
  unfold openSocket
  dsimp only
  split <;> rfl

theorem plan_hand (s : Service) (id : ConnId) : (s.hand id).2.plan = s.plan := by
  unfold hand
  split <;> rfl

/-- Nothing but its start and its stop touches what the task goes by. -/
theorem plan_step {s : Service} {ev : Event} (start : ev ≠ .startSweeps) (stop : ev ≠ .stopSweeps) :
    (s.step ev).plan = s.plan := by
  cases ev with
  | startSweeps => exact absurd rfl start
  | stopSweeps => exact absurd rfl stop
  | openSocket reading => exact plan_openSocket s reading
  | hand id => exact plan_hand s id
  | jump milliseconds => exact plan_moveTo s _
  | wait milliseconds => exact plan_runTo _ _ s
  | _ => rfl

/-- A service keeps its settings. -/
theorem settings_step (s : Service) (ev : Event) : (s.step ev).settings = s.settings := by
  by_cases start : ev = .startSweeps
  · rw [start]
    rfl
  by_cases stop : ev = .stopSweeps
  · rw [stop]
    rfl
  exact congrArg Prod.fst (plan_step start stop)

theorem settings_run (s : Service) (events : List Event) :
    (s.run events).settings = s.settings := by
  induction events generalizing s with
  | nil => rfl
  | cons ev events ih => exact (ih (s.step ev)).trans (settings_step s ev)

/-! ## The first sweep -/

/-- If the task that sweeps has been started and not been stopped, it lives, and goes by what is
configured. -/
def Sweeps (s : Service) : Prop :=
  s.sweeping = true → ∃ t, s.timer = some t ∧
    t.interval = s.settings.sweep.interval * second ∧ t.maxIdle = s.settings.sweep.maxIdle * second

/-- The first sweep would be due at a time that a clock can show, if the task were started now. -/
def CanStart (s : Service) : Prop :=
  s.relay.now / second + s.settings.sweep.interval ≤ Sweep.lastSecond

/-- Whether the task sweeps is a matter of its plan. -/
theorem sweeps_congr {s s' : Service} (same : s'.plan = s.plan) (sweeps : s.Sweeps) :
    s'.Sweeps := by
  simp only [plan, Prod.mk.injEq] at same
  obtain ⟨settings, sweeping, pace⟩ := same
  intro runs
  obtain ⟨t, timed, interval, maxIdle⟩ := sweeps (sweeping ▸ runs)
  rw [timed, Option.map_some, Option.map_eq_some_iff] at pace
  obtain ⟨t', timed', paced⟩ := pace
  obtain ⟨interval', maxIdle'⟩ := Prod.mk.inj paced
  rw [settings]
  exact ⟨t', timed', interval'.trans interval, maxIdle'.trans maxIdle⟩

/-- The task lives from its start on exactly if its first sweep has a time. -/
theorem sweeps_startSweeps_iff (s : Service) : s.startSweeps.Sweeps ↔ s.CanStart := by
  unfold Sweeps CanStart startSweeps Sweep.start?
  dsimp only
  split
  next late =>
    refine iff_of_false (fun sweeps => ?_) (Nat.not_le.mpr late)
    obtain ⟨t, timed, -⟩ := sweeps rfl
    cases timed
  next inTime =>
    exact iff_of_true (fun _ => ⟨_, rfl, rfl, rfl⟩) (Nat.not_lt.mp inTime)

/-- A task that sweeps goes on doing so. Only a new start could fail. -/
theorem sweeps_step {s : Service} {ev : Event} (sweeps : s.Sweeps)
    (canStart : ev = .startSweeps → s.CanStart) : (s.step ev).Sweeps := by
  by_cases start : ev = .startSweeps
  · have lives := (sweeps_startSweeps_iff s).mpr (canStart start)
    rw [start]
    exact lives
  by_cases stop : ev = .stopSweeps
  · rw [stop]
    exact nofun
  exact sweeps_congr (plan_step start stop) sweeps

/-- The task lives throughout a run in which it could be started at any time. -/
theorem sweeps_run {s : Service} (sweeps : s.Sweeps) (events : List Event)
    (canStart : ∀ before, before <+: events → (s.run before).CanStart) : (s.run events).Sweeps := by
  -- From the end of the run, since an event is judged by the clock that the events before it left.
  induction events using List.reverseRecOn with
  | nil => exact sweeps
  | append_singleton events ev ih =>
    have earlier : events <+: events ++ [ev] := List.prefix_append _ _
    rw [run_snoc]
    exact sweeps_step (ih fun before isPrefix => canStart before (isPrefix.trans earlier))
      fun _ => canStart events earlier

/-! ## A channel for a connection -/

/-- A WebSocket that is opened now is served: it has a channel for as many frames as configured,
with a writer, and its call reads. -/
def Admits (s : Service) (reading : Bool) : Prop :=
  let (id, opened) := s.openSocket reading
  opened.sockets = s.sockets ++ [.fresh id reading] ∧
    opened.relay.channel id = .fresh s.settings.buffer

/-- A WebSocket that is opened now is over at once: its call has ended, its writer has stopped,
and its channel takes nothing. -/
def Loses (s : Service) (reading : Bool) : Prop :=
  let (id, opened) := s.openSocket reading
  (∃ x, opened.sockets = s.sockets ++ [x] ∧ x.connection = id ∧ x.serving.isDone = true ∧
    x.writer = .stopped) ∧ (opened.relay.channel id).listening = false

/-- With a buffer that a channel can have, a connection is served. -/
theorem admits_of_le {s : Service} (enough : s.settings.buffer ≤ maxBuffer) (reading : Bool) :
    s.Admits reading := by
  unfold Admits openSocket
  dsimp only
  rw [if_pos enough]
  exact ⟨rfl, Lines.get_set_self ..⟩

/-- With a larger one it is lost. -/
theorem loses_of_lt {s : Service} (tooLarge : maxBuffer < s.settings.buffer) (reading : Bool) :
    s.Loses reading := by
  unfold Loses openSocket
  dsimp only
  rw [if_neg (Nat.not_le.mpr tooLarge)]
  refine ⟨⟨_, rfl, rfl, rfl, rfl⟩, ?_⟩
  show (Lines.get (Lines.drop _ _) _).listening = false
  rw [Lines.get_drop_self]
  rfl

/-- Which of the two it is depends on the size of the channel only. -/
theorem admits_iff (s : Service) (reading : Bool) :
    (s.Admits reading ↔ s.settings.buffer ≤ maxBuffer) ∧
      (s.Loses reading ↔ ¬ s.settings.buffer ≤ maxBuffer) := by
  have notBoth : s.Admits reading → ¬ s.Loses reading := by
    rintro ⟨-, fresh⟩ ⟨-, gone⟩
    rw [fresh] at gone
    cases gone
  by_cases enough : s.settings.buffer ≤ maxBuffer
  · have admits := admits_of_le enough reading
    exact ⟨iff_of_true admits enough, iff_of_false (notBoth admits) (not_not_intro enough)⟩
  · have loses := loses_of_lt (Nat.not_le.mp enough) reading
    exact ⟨iff_of_false (fun admits => notBoth admits loses) enough, iff_of_true loses enough⟩

/-! ## Accepted settings -/

/-- The first century of a clock, in milliseconds. A year has 365 days and a quarter. -/
def century : Instant := 36525 * 24 * 60 * 60 * second

/-- The clock shows no more than a century throughout the run. -/
def InCentury (s : Service) (events : List Event) : Prop :=
  ∀ before, before <+: events → (s.run before).relay.now ≤ century

section
variable (settings : Settings) (candidates : Nat → String)

/-- A service with these settings that nobody has called yet. -/
def fresh : Service := start settings settings.limits candidates

/-- In its first century the task can be started at any time exactly if it can be at the last. -/
theorem sweeps_inCentury_iff :
    (∀ events, (fresh settings candidates).InCentury events →
      ((fresh settings candidates).run events).Sweeps) ↔
    century / second + settings.sweep.interval ≤ Sweep.lastSecond := by
  constructor
  · intro all
    -- Nobody calls for a century, and then the task is started.
    have late : ((fresh settings candidates).run [.jump century]).relay.now = century :=
      Nat.zero_add century
    have inCentury : (fresh settings candidates).InCentury [.jump century, .startSweeps] := by
      intro before first
      obtain rfl | ⟨_, rfl, second⟩ := List.prefix_cons_iff.mp first
      · exact Nat.zero_le century
      obtain rfl | ⟨_, rfl, third⟩ := List.prefix_cons_iff.mp second
      · exact Nat.le_of_eq late
      rw [List.prefix_nil.mp third]
      exact Nat.le_of_eq late
    have canStart : ((fresh settings candidates).run [.jump century]).CanStart :=
      (sweeps_startSweeps_iff _).mp (all _ inCentury)
    unfold CanStart at canStart
    rw [late, settings_run] at canStart
    exact canStart
  · intro fits events inCentury
    have notStarted : (fresh settings candidates).Sweeps := by
      intro started
      cases started
    refine sweeps_run notStarted events fun before isPrefix => ?_
    have early := Nat.div_le_div_right (c := second) (inCentury before isPrefix)
    unfold CanStart
    rw [settings_run]
    exact (Nat.add_le_add_right early _).trans fits

end

/-- **What a service needs of the settings that were accepted**, whatever happens to it. The task
that sweeps lives whenever it has been started, in every run of the first century, exactly if the
interval, where it is configured, is at most 2⁶³ - 1 seconds less that century. Every connection is
admitted if the buffer, where it is configured, is at most 2⁶¹ - 1 frames, and with any larger
buffer every connection is lost. -/
theorem lasts_iff {vars : Variables} {settings : Settings}
    (loaded : Settings.load vars = .ok settings) (candidates : Nat → String) :
    ((∀ events, (fresh settings candidates).InCentury events →
        ((fresh settings candidates).run events).Sweeps) ↔
      Settings.AtMost vars "RELAY_EVICTION_INTERVAL_SECONDS" (2 ^ 63 - 1 - 3155760000)) ∧
    ∀ events reading,
      (((fresh settings candidates).run events).Admits reading ↔
        Settings.AtMost vars "RELAY_CONNECTION_BUFFER" (2 ^ 61 - 1)) ∧
      (((fresh settings candidates).run events).Loses reading ↔
        ¬ Settings.AtMost vars "RELAY_CONNECTION_BUFFER" (2 ^ 61 - 1)) := by
  obtain ⟨-, follows⟩ := Settings.follows_of_load loaded
  constructor
  · -- The latest start is at the end of the century, and that decides.
    have seconds : century / second = 3155760000 := by decide
    have last : Sweep.lastSecond = 2 ^ 63 - 1 := rfl
    rw [sweeps_inCentury_iff, ← Settings.le_iff_atMost (by decide) follows.interval, seconds, last]
    exact (Nat.le_sub_iff_add_le' (by decide)).symm
  · intro events reading
    have most : maxBuffer = 2 ^ 61 - 1 := rfl
    have same : ((fresh settings candidates).run events).settings.buffer = settings.buffer :=
      congrArg Settings.buffer (settings_run ..)
    rw [← Settings.le_iff_atMost (by decide) follows.backlog.buffer, ← same, ← most]
    exact admits_iff ..

/-- The interval and the buffer, and nothing else, are configured. -/
def paced (interval buffer : String) : Variables :=
  Settings.listed
    [("RELAY_EVICTION_INTERVAL_SECONDS", interval), ("RELAY_CONNECTION_BUFFER", buffer)]

/-- The largest interval is fine, and a buffer of one frame too many is not. -/
theorem lasts_iff_at_limit :
    let vars := paced "9223372033699015807" "2305843009213693952"
    let settings :=
      { Settings.default with sweep := ⟨9223372033699015807, 43200⟩, buffer := 2305843009213693952 }
    let s := fresh settings fun _ => "aaaaaa"
    Settings.load vars = .ok settings ∧
    (∀ events, s.InCentury events → (s.run events).Sweeps) ∧
    ∀ events reading, (s.run events).Loses reading := by
  intro vars settings s
  have loaded : Settings.load vars = .ok settings := by decide +kernel
  obtain ⟨sweeps, connects⟩ := lasts_iff loaded fun _ => "aaaaaa"
  refine ⟨loaded, sweeps.mpr ?_, fun events reading => (connects events reading).2.mpr ?_⟩
  · have given : vars "RELAY_EVICTION_INTERVAL_SECONDS" = some "9223372033699015807" := rfl
    have word : Decimal.word "9223372033699015807" = .ok 9223372033699015807 := by decide +kernel
    exact (Settings.atMost_iff_of_word given word).mpr (by decide)
  · have given : vars "RELAY_CONNECTION_BUFFER" = some "2305843009213693952" := rfl
    have word : Decimal.word "2305843009213693952" = .ok 2305843009213693952 := by decide +kernel
    rw [Settings.atMost_iff_of_word given word]
    decide

/-- The largest numbers of 64 bits are accepted for both. The task that sweeps is then dead from
its start on, although the clock shows its first instant, and the first connection is lost. -/
theorem largest_numbers_fail :
    let vars := paced "18446744073709551615" "18446744073709551615"
    let settings := { Settings.default with sweep := ⟨2 ^ 64 - 1, 43200⟩, buffer := 2 ^ 64 - 1 }
    let s := fresh settings fun _ => "aaaaaa"
    Settings.load vars = .ok settings ∧ s.relay.now = 0 ∧
      s.startSweeps.sweeping = true ∧ s.startSweeps.timer = none ∧ s.Loses true := by
  intro vars settings s
  have loaded : Settings.load vars = .ok settings := by decide +kernel
  have late : s.startSweeps.timer = none := by decide +kernel
  exact ⟨loaded, rfl, rfl, late, loses_of_lt (by decide) true⟩

end Service

end Rendezvous
