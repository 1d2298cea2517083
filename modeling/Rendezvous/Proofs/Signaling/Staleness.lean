import Rendezvous.Proofs.Signaling.Eviction
import Rendezvous.Sweep

/-!
# How stale a room can get

A sweep removes what has been idle for longer than the limit, and the next sweep is one
interval away. So a room that a sweep leaves may idle on until the next one, and no room ever
reaches the sum of limit and interval. The invariant is about the timer: it is due before any
room could get so stale (`Timely.inTime`). An operation that stirs a room moves the room's own
time only to the present, and the timer never looks further ahead than one interval, so
nothing has to be known of how the clock advanced or how late the timer fired.
-/

namespace Rendezvous

/-! ## The timer -/

namespace Sweep

/-- The timer has just been started: it is due in one interval. -/
def Started (t : Sweep) (now : Instant) : Prop := t.due = now + t.interval

/-- A timer is started with the numbers of the settings, in milliseconds. -/
theorem started_of_start? {settings : SweepSettings} {now : Instant} {t : Sweep}
    (started : start? settings now = some t) :
    t.Started now ∧ t.interval = settings.interval * second ∧
      t.maxIdle = settings.maxIdle * second := by
  unfold start? at started
  split at started
  next => cases started
  next =>
    cases started
    exact ⟨rfl, rfl, rfl⟩

/-- A timer that was late is next due at the first time of its grid that is still to come. -/
theorem nextDue_spec {t : Sweep} (positive : 0 < t.interval) {now : Nat} (late : t.due ≤ now) :
    now < t.nextDue now ∧ t.nextDue now ≤ now + t.interval ∧
      ∃ k, t.nextDue now = t.due + k * t.interval := by
  have least := Nat.lt_mul_div_succ (now - t.due) positive
  have most := Nat.mul_div_le (now - t.due) t.interval
  have next : t.nextDue now =
      t.due + t.interval * ((now - t.due) / t.interval) + t.interval := by
    rw [nextDue, Nat.mul_add, Nat.mul_one, Nat.add_assoc]
  rw [Nat.mul_add, Nat.mul_one] at least
  -- What has passed of the grid by now, and one interval more.
  generalize t.interval * ((now - t.due) / t.interval) = passed at least most next
  have within : t.due + passed ≤ now := Nat.add_le_of_le_sub' late most
  have beyond : now < t.due + (passed + t.interval) := (Nat.sub_lt_iff_lt_add' late).mp least
  refine ⟨?_, ?_, (now - t.due) / t.interval + 1, ?_⟩
  · rw [next, Nat.add_assoc]
    exact beyond
  · rw [next]
    exact Nat.add_le_add_right within t.interval
  · rw [nextDue, Nat.mul_comm]

end Sweep

/-! ## A relay under watch -/

/-- A relay, and the timer of the task that sweeps it. -/
structure Watch where
  relay : Relay
  timer : Sweep

namespace Watch

/-- Something is asked of the relay, time passing among it, and then the task runs. A timer that
is due fires once and is then due later, so the task waits again. -/
def step (w : Watch) (op : Operation) : Watch :=
  let (timer, relay) := w.timer.poll (w.relay.operate op).2
  ⟨relay, timer⟩

/-- What a list of operations makes of a relay under watch. -/
def run (w : Watch) (ops : List Operation) : Watch := ops.foldl step w

theorem run_snoc (w : Watch) (ops : List Operation) (op : Operation) :
    w.run (ops ++ [op]) = (w.run ops).step op := List.foldl_append ..

/-- The task waits, for no longer than an interval and on the grid of the timer that was
started, and it will be due before any room gets too stale. -/
structure Timely (w : Watch) (t : Sweep) : Prop where
  pace : w.timer.interval = t.interval
  limit : w.timer.maxIdle = t.maxIdle
  keyed : Relay.Keyed w.relay.rooms
  waits : w.relay.now < w.timer.due
  soon : w.timer.due ≤ w.relay.now + t.interval
  grid : ∃ k, w.timer.due = t.due + k * t.interval
  inTime : ∀ code s, w.relay.find? code = some s →
    w.timer.due ≤ s.lastActive + t.maxIdle + t.interval

variable {w : Watch} {t : Sweep}

/-- After an operation the timer is still in time, whatever the clock shows: a room that was
stirred has the time from before the operation, and from there the timer was due soon. -/
theorem Timely.operate (h : w.Timely t) (op : Operation) {code : String} {s : Session}
    (found : (w.relay.operate op).2.find? code = some s) :
    w.timer.due ≤ s.lastActive + t.maxIdle + t.interval := by
  have kept := Relay.active_operate h.keyed op found
  unfold Relay.TimeKept at kept
  split at kept
  next stirred =>
    have soon := h.soon
    rw [← kept] at soon
    have later : s.lastActive + t.interval ≤ s.lastActive + t.maxIdle + t.interval :=
      Nat.add_le_add_right (Nat.le_add_right ..) _
    exact Nat.le_trans soon later
  next calm =>
    obtain ⟨before, live, same⟩ := kept
    rw [same]
    exact h.inTime code before live

/-- **Each step keeps the timer in time.** -/
theorem timely_step (positive : 0 < t.interval) (h : w.Timely t) (op : Operation) :
    (w.step op).Timely t := by
  have keyed : Relay.Keyed (w.relay.operate op).2.rooms := by
    rw [Relay.operate_deed]
    exact Relay.keyed_perform h.keyed _
  have passes := w.relay.now_operate op
  have inTime : ∀ {code s}, (w.relay.operate op).2.find? code = some s →
      w.timer.due ≤ s.lastActive + t.maxIdle + t.interval := h.operate op
  unfold step
  generalize (w.relay.operate op).2 = r at keyed passes inTime ⊢
  show Timely ⟨(w.timer.poll r).2, (w.timer.poll r).1⟩ t
  unfold Sweep.poll
  split
  next late =>
    have quick : 0 < w.timer.interval := by
      rw [h.pace]
      exact positive
    obtain ⟨after, soon, k, onGrid⟩ := Sweep.nextDue_spec quick late
    rw [h.pace] at soon onGrid
    refine ⟨h.pace, h.limit, ?_, after, soon, ?_, fun code s found => ?_⟩
    · exact keyed.sublist (List.filter_sublist.map _)
    · obtain ⟨k', onGrid'⟩ := h.grid
      refine ⟨k' + k, ?_⟩
      rw [onGrid, onGrid', Nat.add_mul, Nat.add_assoc]
    · -- What the sweep has left was idle for no longer than the limit.
      have left : (r.evict w.timer.maxIdle).2.find? code = some s := found
      rw [Relay.find?_evict keyed] at left
      obtain ⟨-, fresh⟩ := Option.filter_eq_some_iff.mp left
      rw [h.limit, Relay.isIdle, Session.idle, Bool.not_eq_true', decide_eq_false_iff_not,
        Nat.not_lt] at fresh
      have young : r.now ≤ s.lastActive + t.maxIdle := Nat.sub_le_iff_le_add'.mp fresh
      exact Nat.le_trans soon (Nat.add_le_add_right young t.interval)
  next early =>
    refine ⟨h.pace, h.limit, keyed, Nat.lt_of_not_le early, ?_, h.grid, fun _ _ => inTime⟩
    exact Nat.le_trans h.soon (Nat.add_le_add_right passes t.interval)

/-- A task that was just started is timely, for there is no room yet. -/
theorem timely_start {r : Relay} (empty : r.rooms = []) (started : t.Started r.now)
    (positive : 0 < t.interval) : Timely ⟨r, t⟩ t := by
  refine ⟨rfl, rfl, ?_, ?_, Nat.le_of_eq started, ⟨0, ?_⟩, fun code s found => ?_⟩
  · show Relay.Keyed r.rooms
    rw [empty]
    exact List.nodup_nil
  · show r.now < t.due
    rw [started]
    exact Nat.lt_add_of_pos_right positive
  · rw [Nat.zero_mul]
    rfl
  · have live : r.rooms.find? (·.code == code) = some s := found
    rw [empty] at live
    cases live

theorem timely_run (positive : 0 < t.interval) (h : w.Timely t) (ops : List Operation) :
    (w.run ops).Timely t := by
  induction ops using List.reverseRecOn with
  | nil => exact h
  | append_singleton ops op ih =>
    rw [run_snoc]
    exact timely_step positive ih op

/-- The task removes no room but those that have been idle for longer than its limit. -/
theorem spared_step {op : Operation} {s : Session} (isRoom : s ∈ (w.relay.operate op).2.rooms)
    (young : s.idle (w.relay.operate op).2.now ≤ w.timer.maxIdle) :
    s ∈ (w.step op).relay.rooms := by
  unfold step
  show s ∈ (w.timer.poll (w.relay.operate op).2).2.rooms
  unfold Sweep.poll
  split
  next late =>
    refine List.mem_filter.mpr ⟨isRoom, ?_⟩
    rw [Relay.isIdle, Bool.not_eq_true', decide_eq_false_iff_not]
    exact Nat.not_lt.mpr young
  next early => exact isRoom

/-- **A sweep task bounds staleness.** Let its timer be started, on a relay without rooms, at
some time, with some limit and some interval. Whatever is asked of the relay afterwards, and
however the clock advances, if the task runs after each time, then it waits: its timer is due
later, within an interval, and a number of intervals after the start. No live room has been
idle for as long as the limit and the interval together. And whatever is asked next, the task
then removes no room that has been idle for the limit or less. -/
theorem staleness_bounded {r : Relay} (empty : r.rooms = []) {t : Sweep}
    (started : t.Started r.now) (positive : 0 < t.interval) {ops : List Operation} {w : Watch}
    (reached : w = run ⟨r, t⟩ ops) :
    (w.relay.now < w.timer.due ∧ w.timer.due ≤ w.relay.now + t.interval ∧
      ∃ k, w.timer.due = r.now + k * t.interval) ∧
    (∀ s ∈ w.relay.rooms, s.idle w.relay.now < t.maxIdle + t.interval) ∧
    ∀ op, ∀ s ∈ (w.relay.operate op).2.rooms,
      s.idle (w.relay.operate op).2.now ≤ t.maxIdle → s ∈ (w.step op).relay.rooms := by
  have timely : w.Timely t := by
    rw [reached]
    exact timely_run positive (timely_start empty started positive) ops
  refine ⟨⟨timely.waits, timely.soon, ?_⟩, fun s isRoom => ?_, fun op s isRoom young => ?_⟩
  · obtain ⟨k, onGrid⟩ := timely.grid
    refine ⟨k + 1, ?_⟩
    rw [onGrid, started, Nat.add_mul, Nat.one_mul, Nat.add_comm (k * t.interval), Nat.add_assoc]
  · have inTime := timely.inTime s.code s (Relay.find?_of_mem timely.keyed isRoom)
    have waits := timely.waits
    have before : w.relay.now < s.lastActive + (t.maxIdle + t.interval) := by
      rw [← Nat.add_assoc]
      exact Nat.lt_of_lt_of_le waits inTime
    have gap : ∀ now active limit : Nat, now < active + limit → 0 < limit →
        now - active < limit := by omega
    exact gap _ _ _ before (Nat.add_pos_right _ positive)
  · rw [← timely.limit] at young
    exact spared_step isRoom young

/-- A room is made, and the timer comes late to it, when the room has been idle for just the
limit. Then it is nearly the next due time. -/
def lingering : List Operation := [.create "host", .wait 5000, .wait 999]

/-- The room has been idle for nearly an interval more than the limit. One moment later it is
gone. -/
theorem staleness_bounded_lingering :
    let t : Sweep := ⟨2000, 5000, 2000⟩
    let w := run ⟨Relay.quarters, t⟩ lingering
    Sweep.start? ⟨2, 5⟩ Relay.quarters.now = some t ∧
    w.relay.now = 5999 ∧ w.timer.due = 6000 ∧ (w.relay.rooms.map (·.code)) = ["den"] ∧
    (∀ s ∈ w.relay.rooms, s.idle w.relay.now < 7000) ∧
    (w.step (.wait 1)).relay.rooms = [] := by
  intro t w
  have start : Sweep.start? ⟨2, 5⟩ Relay.quarters.now = some t := by decide +kernel
  obtain ⟨started, -, -⟩ := Sweep.started_of_start? start
  obtain ⟨-, bounded, -⟩ := staleness_bounded (r := Relay.quarters) rfl started (by decide)
    (show w = run ⟨Relay.quarters, t⟩ lingering from rfl)
  exact ⟨start, by decide +kernel, by decide +kernel, by decide +kernel, bounded,
    by decide +kernel⟩

end Watch

end Rendezvous
