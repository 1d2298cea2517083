import Mathlib.Algebra.GroupWithZero.Nat
import Rendezvous.Proofs.Session.Direction

/-!
# What a session adds to the tally

Each envelope that passes a session leaves one mark: it went to a connection, was refused by
one, or was queued. So what a session adds to the tally is a matter of counting marks
(`marked_markAll`), and the marks of a step are known from the session alone.

There are two laws. As many envelopes are tried on connections as are sent to a role with a
connection or handed over with a backlog (`countP_tried`). And a queue loses nothing without
a mark (`queue_step`): what it held and what was put in is what it holds, what was pushed out
of it when it was full, and what was taken off it by a connection that joined.
-/

namespace Rendezvous

namespace Tally

/-- All envelopes that went to live connections. -/
def relayedTotal (t : Tally) : Nat :=
  (Role.all.map fun role => (Kind.all.map fun kind => (t.relayed.get role).get kind).sum).sum

/-- All envelopes that live connections refused. -/
def refusedTotal (t : Tally) : Nat := t.failedClosed + t.failedBackpressure

namespace Mark

/-- The envelope was tried on a connection. -/
def isTried : Mark → Bool
  | .delivered .. | .refused _ => true
  | .queued .. => false

/-- The envelope was queued for the role. -/
def isQueued (role : Role) : Mark → Bool
  | .queued destination _ => destination == role
  | .delivered .. | .refused _ => false

/-- The envelope was queued for the role, and the queue was full. -/
def isOverflow (role : Role) : Mark → Bool
  | .queued destination overflowed => destination == role && overflowed
  | .delivered .. | .refused _ => false

end Mark

/-- What marks add to a tally. -/
structure Marked (t : Tally) (marks : List Mark) (t' : Tally) : Prop where
  tried : t'.relayedTotal + t'.refusedTotal =
    t.relayedTotal + t.refusedTotal + marks.countP Mark.isTried
  buffered : ∀ role, t'.buffered.get role = t.buffered.get role + marks.countP (Mark.isQueued role)
  dropped : ∀ role, t'.dropped.get role = t.dropped.get role + marks.countP (Mark.isOverflow role)
  created : t'.roomsCreated = t.roomsCreated
  ended : t'.roomsEnded = t.roomsEnded
  evicted : t'.roomsEvicted = t.roomsEvicted
  active : t'.roomsActive = t.roomsActive
  connections : t'.connections = t.connections

/-- One mark counts for itself. -/
theorem marked_mark (t : Tally) (m : Mark) : t.Marked [m] (t.mark m) := by
  cases m with
  | delivered destination kind =>
    refine ⟨?_, fun _ => rfl, fun _ => rfl, rfl, rfl, rfl, rfl, rfl⟩
    have one : (t.mark (.delivered destination kind)).relayedTotal = t.relayedTotal + 1 := by
      cases destination <;> cases kind <;>
        simp only [mark, delivered, relayedTotal, Role.all, Kind.all, ByRole.modify, ByRole.set,
          ByRole.get, ByKind.modify, ByKind.get, List.map_cons, List.map_nil, List.sum_cons,
          List.sum_nil] <;> omega
    rw [one]
    exact Nat.add_right_comm ..
  | refused refusal =>
    refine ⟨?_, fun _ => ?_, fun _ => ?_, ?_, ?_, ?_, ?_, ?_⟩
    · have one : (t.mark (.refused refusal)).refusedTotal = t.refusedTotal + 1 := by
        cases refusal <;> simp only [mark, refused, refusedTotal] <;> omega
      have same : (t.mark (.refused refusal)).relayedTotal = t.relayedTotal := by
        cases refusal <;> rfl
      rw [one, same]
      rfl
    all_goals cases refusal <;> rfl
  | queued destination overflowed =>
    refine ⟨?_, fun role => ?_, fun role => ?_, ?_, ?_, ?_, ?_, ?_⟩
    · cases overflowed <;> rfl
    · cases overflowed <;> cases destination <;> cases role <;> rfl
    · cases overflowed <;> cases destination <;> cases role <;> rfl
    all_goals cases overflowed <;> rfl

/-- Marks that are made one after the other count as often as they are made. -/
theorem marked_markAll (t : Tally) (marks : List Mark) : t.Marked marks (t.markAll marks) := by
  induction marks generalizing t with
  | nil => exact ⟨rfl, fun _ => rfl, fun _ => rfl, rfl, rfl, rfl, rfl, rfl⟩
  | cons m rest ih =>
    have first := marked_mark t m
    have later := ih (t.mark m)
    have split : ∀ p : Mark → Bool, (m :: rest).countP p = [m].countP p + rest.countP p := by
      intro p
      rw [← List.countP_append, List.singleton_append]
    refine ⟨?_, fun role => ?_, fun role => ?_, later.created.trans first.created,
      later.ended.trans first.ended, later.evicted.trans first.evicted,
      later.active.trans first.active, later.connections.trans first.connections⟩
    · rw [split, ← Nat.add_assoc, ← first.tried]
      exact later.tried
    · rw [split, ← Nat.add_assoc, ← first.buffered]
      exact later.buffered role
    · rw [split, ← Nat.add_assoc, ← first.dropped]
      exact later.dropped role

end Tally

/-- What is pushed on a channel is tried, and none of it is queued. -/
theorem Channel.countP_marks (c : Channel) (destination : Role) (es : List Envelope) :
    (c.marks destination es).countP Tally.Mark.isTried = es.length ∧
    ∀ role, (c.marks destination es).countP (Tally.Mark.isQueued role) = 0 ∧
      (c.marks destination es).countP (Tally.Mark.isOverflow role) = 0 := by
  induction es generalizing c with
  | nil => exact ⟨rfl, fun _ => ⟨rfl, rfl⟩⟩
  | cons e rest ih =>
    obtain ⟨tried, unqueued⟩ := ih (c.offer (.envelope e))
    rw [marks]
    cases c.refusal? with
    | none | some refusal =>
      refine ⟨?_, fun role => ⟨?_, ?_⟩⟩
      · rw [List.countP_cons_of_pos rfl, tried, List.length_cons]
      · rw [List.countP_cons_of_neg Bool.false_ne_true, (unqueued role).1]
      · rw [List.countP_cons_of_neg Bool.false_ne_true, (unqueued role).2]

namespace Session

/-- How many envelopes an event tries on connections. -/
def Stage.tried (st : Stage) : Event → Nat
  | .relay destination _ => if st.session.isConnected destination then 1 else 0
  | .attach role id => (st.session.attach role id st.now).2.backlog.length
  | .detach .. | .claim _ | .clear | .close _ | .connect _ | .take .. | .drop _ | .wait _ => 0

/-- How many envelopes an event takes off the queue of a role to hand them over. -/
def Stage.flushed (st : Stage) (role : Role) : Event → Nat
  | .attach r _ => if r = role then (st.session.pending r).length else 0
  | _ => 0

/-- The marks of an event are as many attempts to push as it makes. -/
theorem countP_tried (st : Stage) (ev : Event) :
    (st.marks ev).countP Tally.Mark.isTried = st.tried ev := by
  cases ev with
  | relay destination e =>
    rw [Stage.marks, Stage.tried, isConnected]
    cases (st.session.slot destination).connection with
    | none => rfl
    | some id => exact (Channel.countP_marks ..).1
  | attach role id => exact (Channel.countP_marks ..).1
  | detach | claim | clear | close | connect | take | drop | wait => rfl

/-- A full queue stays as long as it is, and any other gets longer by one. -/
theorem length_enqueue {limit : Nat} (room : 1 ≤ limit) (e : Envelope) (waiting : List Envelope) :
    waiting.length + 1 =
      (enqueue limit e waiting).length + if limit ≤ waiting.length then 1 else 0 := by
  unfold enqueue
  split
  · rw [List.length_append, List.length_tail, List.length_singleton]
    omega
  · rw [List.length_append, List.length_singleton]

theorem countP_queued (destination role : Role) (full : Bool) :
    [Tally.Mark.queued destination full].countP (Tally.Mark.isQueued role) =
      (if destination = role then 1 else 0) ∧
    [Tally.Mark.queued destination full].countP (Tally.Mark.isOverflow role) =
      if destination = role ∧ full = true then 1 else 0 := by
  cases destination <;> cases role <;> cases full <;> decide

/-- **A queue loses nothing without a mark.** -/
theorem queue_step (st : Stage) (room : 1 ≤ st.session.limits.pending) (ev : Event) (role : Role) :
    (st.session.pending role).length + (st.marks ev).countP (Tally.Mark.isQueued role) =
      ((st.step ev).session.pending role).length +
        (st.marks ev).countP (Tally.Mark.isOverflow role) + st.flushed role ev := by
  cases ev with
  | relay destination e =>
    rw [Stage.marks, pending_relay]
    cases connected : (st.session.slot destination).connection with
    | some id =>
      have unqueued := (Channel.countP_marks (st.channel id) destination [e]).2 role
      rw [unqueued.1, unqueued.2, if_neg]
      · rfl
      · rintro ⟨rfl, away⟩
        rw [away] at connected
        cases connected
    | none =>
      -- Nobody listens: the envelope is queued, and only in its own destination's queue.
      by_cases mine : destination = role
      · subst mine
        rw [if_pos ⟨rfl, connected⟩]
        have fits := length_enqueue room e (st.session.pending destination)
        simp only [countP_queued, true_and, if_true, decide_eq_true_eq]
        exact fits
      · rw [if_neg fun both => mine both.1]
        simp only [countP_queued, mine, false_and, if_false]
        rfl
  | attach r id =>
    -- An attachment empties the queue of its role, and all that waited there counts as flushed.
    have unqueued := (Channel.countP_marks (st.channel id) r
      (st.session.attach r id st.now).2.backlog).2 role
    rw [Stage.marks, unqueued.1, unqueued.2, pending_attach, Stage.flushed]
    split
    next mine =>
      subst mine
      exact (Nat.zero_add _).symm
    next => rfl
  | detach | claim | clear | close | connect | take | drop | wait =>
    rw [pending_of_other rfl rfl]
    rfl

end Session

end Rendezvous
