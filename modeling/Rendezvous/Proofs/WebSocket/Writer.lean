import Rendezvous.Proofs.Signaling.Offers
import Rendezvous.WebSocket.Socket

/-!
# What a writer shows

A writer begins the frames that its channel has accepted, in order, and stops behind the
first request to close. So all that it has ever begun is what there is to show of the
first so many of them (`Faithful`), however often it was interrupted, and whether or not
its client went away.

`faithful_write` is one turn of the writer. To the relay, a turn is somebody who takes
frames off the channel (`readBy_write`).
-/

namespace Rendezvous

/-- The frame asks the writer to close. -/
def Frame.isClose (f : Frame) : Bool := f.wireText?.isNone

namespace WebSocket

open Signaling (World)

/-! ## What there is to show -/

/-- What a client sees of one frame. -/
def face : Frame → Shown
  | .envelope e => .text e.wireText
  | .error report => .text report.wireText
  | .close reason => .close normalClose reason

/-- What a client sees of frames: all of them, up to the first request to close. -/
def shown : List Frame → List Shown
  | [] => []
  | f :: rest => face f :: if f.isClose then [] else shown rest

/-- Nothing behind a request to close is ever seen. -/
theorem shown_append (before after : List Frame) :
    shown (before ++ after) = shown before ++ if before.any Frame.isClose then [] else shown after := by
  induction before with
  | nil => rfl
  | cons f rest ih =>
    rw [List.cons_append, shown, ih, shown, List.any_cons]
    cases f.isClose with
    | true => rfl
    | false => rfl

/-- What a client is shown of frames it is shown of more frames, too. -/
theorem shown_prefix (before after : List Frame) : shown before <+: shown (before ++ after) := by
  rw [shown_append]
  exact List.prefix_append ..

/-- Frames without a close are all shown, as their texts. -/
theorem shown_of_messages {frames : List Frame} (messages : ∀ f ∈ frames, f.isClose = false) :
    shown frames = (frames.filterMap Frame.wireText?).map .text := by
  induction frames with
  | nil => rfl
  | cons f rest ih =>
    have later := ih fun g mem => messages g (List.mem_cons_of_mem f mem)
    cases f with
    | envelope e => exact congrArg (Shown.text e.wireText :: ·) later
    | error report => exact congrArg (Shown.text report.wireText :: ·) later
    | close reason => exact absurd (messages _ List.mem_cons_self) Bool.noConfusion

/-- A client sees texts, and then one close at most. -/
theorem shown_eq (frames : List Frame) :
    ∃ (texts : List String) (reason? : Option String),
      shown frames = texts.map .text ++ reason?.toList.map (.close normalClose) := by
  induction frames with
  | nil => exact ⟨[], none, rfl⟩
  | cons f rest ih =>
    obtain ⟨texts, reason?, same⟩ := ih
    cases f with
    | envelope e => exact ⟨e.wireText :: texts, reason?, congrArg _ same⟩
    | error report => exact ⟨report.wireText :: texts, reason?, congrArg _ same⟩
    | close reason => exact ⟨[], some reason, rfl⟩

/-! ## Turns of a writer -/

namespace Socket

variable {s : Socket} {r : Relay}

/-- What comes of a turn of the writer that is not over at once. -/
inductive Pass (s : Socket) (r : Relay) (fuel : Nat) : Socket × Relay → Prop
  | stuck (isStuck : s.isStuck = true) : Pass s r fuel (s, r)
  | begins {f : Frame} {rest : List Frame} (active : s.writer = .active)
    (next : (r.channel s.connection).queue = f :: rest) :
    Pass s r fuel ((s.startFrame f).write fuel (r.take s.connection 1).2)
  | waits (active : s.writer = .active) (empty : (r.channel s.connection).queue = []) :
    Pass s r fuel (s, (r.take s.connection 1).2)
  | ends (active : s.writer = .active) (empty : (r.channel s.connection).queue = [])
    (finished : s.serving.isDone = true) :
    Pass s r fuel
      ({ s with writer := .stopped }, (r.take s.connection 1).2.drop s.connection)
  | stops (inactive : s.writer ≠ .active) :
    Pass s r fuel ({ s with writer := .stopped }, r.drop s.connection)

/-- One turn of the writer is one pass, and then what is left of it. -/
theorem pass_write (s : Socket) (r : Relay) (fuel : Nat) : Pass s r fuel (s.write (fuel + 1) r) := by
  rw [write]
  split
  next isStuck => exact .stuck isStuck
  next =>
    split
    next stopped =>
      have same : s = { s with writer := .stopped } := by
        cases s
        subst stopped
        rfl
      have pass : Pass s r fuel ({ s with writer := .stopped }, r.drop s.connection) :=
        .stops (by rw [stopped]; exact Writer.noConfusion)
      rw [← same] at pass
      exact pass
    next closing => exact .stops (by rw [closing]; exact Writer.noConfusion)
    next active =>
      -- What was taken is the head of the queue, if there is one.
      have taken : (r.take s.connection 1).1 = (r.channel s.connection).queue.take 1 := rfl
      cases queue : (r.channel s.connection).queue with
      | nil =>
        rw [queue, List.take_nil] at taken
        split
        next f rest r' found => rw [found] at taken; cases taken
        next r' found =>
          obtain rfl : (r.take s.connection 1).2 = r' := congrArg Prod.snd found
          split
          next finished => exact .ends active queue finished
          next => exact .waits active queue
      | cons f rest =>
        rw [queue, List.take_succ_cons, List.take_zero] at taken
        split
        next g others r' found =>
          obtain rfl : (r.take s.connection 1).2 = r' := congrArg Prod.snd found
          rw [found] at taken
          obtain rfl : g = f := (List.cons.inj taken).1
          exact .begins active queue
        next r' found => rw [found] at taken; cases taken

/-- A frame is begun, or the writer finds that nobody is there. -/
theorem startFrame_eq (s : Socket) (f : Frame) :
    s.startFrame f =
      if s.clientClosed || s.link != .up then { s with writer := .stopped }
      else { s with
        transit := s.transit ++ [face f]
        writer := if f.isClose then .closing else s.writer } := by
  unfold startFrame
  split
  · rfl
  · cases f <;> rfl

@[simp] theorem connection_startFrame (s : Socket) (f : Frame) :
    (s.startFrame f).connection = s.connection := by
  rw [startFrame_eq]
  split <;> rfl

/-- What the writer has begun is what there is to show of the frames that it has taken, or
of the first of them if it has gone. As long as it is there, it has seen no request to
close. -/
structure Faithful (writer : Writer) (c : Channel) (begun : List Shown) : Prop where
  sound : c.Sound
  earlier : ∃ n ≤ c.taken, begun = shown (c.accepted.take n)
  active : writer = .active → begun = shown (c.accepted.take c.taken) ∧
    (c.accepted.take c.taken).any Frame.isClose = false

section
variable {writer writer' : Writer} {c c' : Channel} {begun : List Shown}

theorem faithful_fresh (sound : c.Sound) (untaken : c.taken = 0) : Faithful writer c [] where
  sound := sound
  earlier := ⟨0, Nat.zero_le _, rfl⟩
  active _ := by rw [untaken]; exact ⟨rfl, rfl⟩

/-- Frames that a channel accepts do not touch what was shown. -/
theorem Faithful.grows (h : Faithful writer c begun) {frames : List Frame} {read : Prop}
    (grows : c.Grows frames read c') (unread : ¬ read) : Faithful writer c' begun := by
  obtain ⟨more, -, accepted⟩ := grows.gains
  -- Only what was accepted before has been taken, so frames behind it do not show yet.
  have same : ∀ n ≤ c.taken, c'.accepted.take n = c.accepted.take n := by
    intro n few
    rw [accepted, List.take_append_of_le_length (Nat.le_trans few h.sound)]
  rw [← grows.unread unread] at same
  refine ⟨grows.sound h.sound, ?_, fun isActive => ?_⟩
  · obtain ⟨n, few, begun⟩ := h.earlier
    rw [← grows.unread unread] at few
    exact ⟨n, few, by rw [same n few, begun]⟩
  · rw [same _ (Nat.le_refl _), grows.unread unread]
    exact h.active isActive

/-- A writer that goes begins nothing more. -/
theorem Faithful.leaves (h : Faithful writer c begun) (gone : writer' ≠ .active)
    (accepted : c'.accepted = c.accepted) (taken : c.taken ≤ c'.taken) (sound : c'.Sound) :
    Faithful writer' c' begun := by
  obtain ⟨n, few, begun⟩ := h.earlier
  exact ⟨sound, ⟨n, Nat.le_trans few taken, by rw [accepted, begun]⟩, fun active => absurd active gone⟩

end

theorem channel_take (r : Relay) (id : ConnId) (count : Nat) :
    (r.take id count).2.channel id = ((r.channel id).take count).2 :=
  Lines.get_take_self ..

theorem channel_drop (r : Relay) (id : ConnId) : (r.drop id).channel id = (r.channel id).drop :=
  Lines.get_drop_self ..

theorem take_of_empty {c : Channel} (sound : c.Sound) (empty : c.queue = []) (count : Nat) :
    (c.take count).2 = c := by
  have all : c.accepted.length ≤ c.taken := List.drop_eq_nil_iff.mp empty
  have some_ : c.taken ≤ c.accepted.length := sound
  have same : min (c.taken + count) c.accepted.length = c.taken := by omega
  rw [Channel.take, same]

/-- The next frame was accepted next. -/
theorem take_of_queue {c : Channel} {f : Frame} {rest : List Frame} (next : c.queue = f :: rest) :
    (c.take 1).2.taken = c.taken + 1 ∧ c.accepted.take (c.taken + 1) = c.accepted.take c.taken ++ [f] ∧
      (c.take 1).2.queue = rest := by
  have isNext : c.accepted.drop c.taken = f :: rest := next
  have inside : c.taken < c.accepted.length := by
    have counted := congrArg List.length isNext
    rw [List.length_drop, List.length_cons] at counted
    omega
  have taken : (c.take 1).2.taken = c.taken + 1 := Nat.min_eq_left inside
  have at_next : c.accepted[c.taken]? = some f := by
    rw [← List.head?_drop, isNext]
    rfl
  refine ⟨taken, ?_, ?_⟩
  · rw [List.take_add_one, at_next]
    rfl
  · show c.accepted.drop (c.take 1).2.taken = rest
    rw [taken, ← List.drop_drop, isNext]
    rfl

/-- Before any close, one more frame is one more thing shown. -/
theorem shown_snoc {before : List Frame} (noClose : before.any Frame.isClose = false) (f : Frame) :
    shown (before ++ [f]) = shown before ++ [face f] := by
  rw [shown_append, noClose]
  show shown before ++ (face f :: if f.isClose then [] else []) = _
  rw [ite_self]

/-- The writer begins the next frame. Behind a request to close it is active no longer. -/
theorem Faithful.begins {c : Channel} {begun : List Shown} (h : Faithful .active c begun)
    {f : Frame} {rest : List Frame} (next : c.queue = f :: rest) :
    Faithful (if f.isClose then .closing else .active) (c.take 1).2 (begun ++ [face f]) := by
  obtain ⟨taken, accepted, -⟩ := take_of_queue next
  obtain ⟨begunAll, noClose⟩ := h.active rfl
  have now : begun ++ [face f] = shown (c.accepted.take (c.taken + 1)) := by
    rw [accepted, shown_snoc noClose, begunAll]
  refine ⟨Channel.sound_take .., ?_, fun isActive => ?_⟩
  · rw [taken]
    exact ⟨_, Nat.le_refl _, now⟩
  · rw [taken]
    refine ⟨now, ?_⟩
    show (c.accepted.take (c.taken + 1)).any Frame.isClose = false
    rw [accepted, List.any_append, noClose, Bool.false_or, List.any_cons, List.any_nil, Bool.or_false]
    cases isClose : f.isClose with
    | false => rfl
    | true => rw [isClose] at isActive; cases isActive

/-- Whatever is begun gets to the client. -/
structure Flowing (s : Socket) : Prop where
  active : s.writer = .active
  reading : s.reading = true
  up : s.link = .up
  attending : s.clientClosed = false

/-- A writer that is done sets nothing under way. -/
theorem transit_of_inactive (inactive : s.writer ≠ .active) (fuel : Nat) (r : Relay) :
    (s.write fuel r).1.transit = s.transit := by
  cases fuel with
  | zero => rfl
  | succ fuel =>
    have pass := pass_write s r fuel
    generalize s.write (fuel + 1) r = result at pass ⊢
    cases pass with
    | stuck | stops => rfl
    | begins active | waits active | ends active => exact absurd active inactive

theorem isStuck_of_reading (reading : s.reading = true) : s.isStuck = false := by
  rw [isStuck, reading]
  rfl

/-- With an empty queue all that was accepted has been begun. -/
theorem Faithful.all {c : Channel} {begun : List Shown} (h : Faithful .active c begun)
    (empty : c.queue = []) : begun = shown c.accepted := by
  have all : c.accepted.length ≤ c.taken := List.drop_eq_nil_iff.mp empty
  rw [(h.active rfl).1, List.take_of_length_le all]

/-- So has it with the close that comes next, for nothing is shown behind one. -/
theorem Faithful.all_of_close {c : Channel} {begun : List Shown} (h : Faithful .active c begun)
    {f : Frame} {rest : List Frame} (next : c.queue = f :: rest) (isClose : f.isClose = true) :
    begun ++ [face f] = shown c.accepted := by
  obtain ⟨-, accepted, -⟩ := take_of_queue next
  obtain ⟨begunAll, noClose⟩ := h.active rfl
  -- The frame just begun is a request to close, so what waits behind it is not shown.
  have closes : (c.accepted.take (c.taken + 1)).any Frame.isClose = true := by
    rw [accepted, List.any_append, List.any_cons, isClose, Bool.true_or, Bool.or_true]
  rw [← List.take_append_drop (c.taken + 1) c.accepted, shown_append, closes, accepted,
    shown_snoc noClose, begunAll]
  exact (List.append_nil _).symm

/-- What comes of a turn of the writer: it begins `more`, and if all of it goes through to
the client, nothing is left. -/
structure Progress (s : Socket) (r : Relay) (begun more : List Shown) (result : Socket × Relay) :
    Prop where
  transit : result.1.transit = s.transit ++ more
  connection : result.1.connection = s.connection
  faithful : Faithful result.1.writer (result.2.channel s.connection) (begun ++ more)

/-- A turn that sets nothing under way is progress by nothing. -/
theorem Progress.still {begun : List Shown} {result : Socket × Relay}
    (transit : result.1.transit = s.transit) (connection : result.1.connection = s.connection)
    (faithful : Faithful result.1.writer (result.2.channel s.connection) begun) :
    Progress s r begun [] result := by
  refine ⟨?_, connection, ?_⟩
  · rw [transit, List.append_nil]
  · rw [List.append_nil]
    exact faithful

/-- What two turns begin is begun one after the other. -/
theorem Progress.trans {begun now more : List Shown} {s' : Socket} {r' : Relay}
    {result : Socket × Relay} (first : Progress s r begun now (s', r'))
    (second : Progress s' r' (begun ++ now) more result) :
    Progress s r begun (now ++ more) result := by
  have same : s'.connection = s.connection := first.connection
  refine ⟨?_, second.connection.trans same, ?_⟩
  · rw [second.transit, ← List.append_assoc]
    exact congrArg (· ++ more) first.transit
  · rw [← List.append_assoc, ← same]
    exact second.faithful

/-- The next frame is begun. If it gets through to the client, either the rest may follow,
or it was a request to close and nothing is left to show. -/
theorem progress_startFrame {begun : List Shown} (active : s.writer = .active)
    (h : Faithful s.writer (r.channel s.connection) begun) {f : Frame} {rest : List Frame}
    (next : (r.channel s.connection).queue = f :: rest) :
    ∃ now, Progress s r begun now (s.startFrame f, (r.take s.connection 1).2) ∧
      (s.Flowing → (s.startFrame f).Flowing ∨ (s.startFrame f).writer ≠ .active ∧
        begun ++ now = shown (r.channel s.connection).accepted) := by
  rw [active] at h
  obtain ⟨taken, -, -⟩ := take_of_queue next
  rw [startFrame_eq]
  -- To a client that is gone nothing is shown. The frame has been taken and the writer stops.
  cases gone : s.clientClosed || s.link != .up with
  | true =>
    refine ⟨[], .still rfl rfl ?_, fun flowing => ?_⟩
    · rw [channel_take]
      exact h.leaves Writer.noConfusion rfl (by rw [taken]; omega) (Channel.sound_take ..)
    · rw [flowing.attending, flowing.up] at gone
      cases gone
  | false =>
    refine ⟨[face f], ⟨rfl, rfl, ?_⟩, fun flowing => ?_⟩
    · rw [channel_take]
      have begins := h.begins next
      rw [← active] at begins
      exact begins
    · cases isClose : f.isClose with
      | true => exact Or.inr ⟨Writer.noConfusion, h.all_of_close next isClose⟩
      | false => exact Or.inl ⟨active, flowing.reading, flowing.up, flowing.attending⟩

/-- **A turn of the writer** begins what there is to show of the frames that it takes. If
all goes through to the client and there is time, these are all that were accepted. -/
theorem faithful_write (fuel : Nat) {begun : List Shown}
    (h : Faithful s.writer (r.channel s.connection) begun) :
    ∃ more, Progress s r begun more (s.write fuel r) ∧
      (s.Flowing → (r.channel s.connection).queue.length < fuel →
        begun ++ more = shown (r.channel s.connection).accepted) := by
  -- What was shown before the turn grows with each frame, so it is generalized along with the
  -- socket.
  induction fuel generalizing s r begun with
  | zero => exact ⟨[], .still rfl rfl h, fun _ inTime => absurd inTime (Nat.not_lt_zero _)⟩
  | succ fuel ih =>
    have pass := pass_write s r fuel
    generalize s.write (fuel + 1) r = result at pass ⊢
    cases pass with
    | stuck isStuck =>
      refine ⟨[], .still rfl rfl h, fun flowing _ => ?_⟩
      rw [isStuck_of_reading flowing.reading] at isStuck
      cases isStuck
    | waits active empty =>
      have same : (r.take s.connection 1).2.channel s.connection = r.channel s.connection := by
        rw [channel_take, take_of_empty h.sound empty]
      refine ⟨[], .still rfl rfl (by rw [same]; exact h), fun _ _ => ?_⟩
      rw [active] at h
      rw [List.append_nil, h.all empty]
    | ends active empty =>
      have same : ((r.take s.connection 1).2.drop s.connection).channel s.connection
          = (r.channel s.connection).drop := by
        rw [channel_drop, channel_take, take_of_empty h.sound empty]
      refine ⟨[], .still rfl rfl ?_, fun _ _ => ?_⟩
      · rw [same]
        exact h.leaves Writer.noConfusion rfl h.sound (Channel.sound_drop _)
      · rw [active] at h
        rw [List.append_nil, h.all empty]
    | stops inactive =>
      refine ⟨[], .still rfl rfl ?_, fun flowing _ => absurd flowing.active inactive⟩
      rw [channel_drop]
      exact h.leaves Writer.noConfusion rfl h.sound (Channel.sound_drop _)
    | @begins f rest active next =>
      obtain ⟨now, first, flows⟩ := progress_startFrame active h next
      have faithful : Faithful (s.startFrame f).writer
          ((r.take s.connection 1).2.channel (s.startFrame f).connection) (begun ++ now) := by
        rw [connection_startFrame]
        exact first.faithful
      obtain ⟨more, second, all⟩ := ih faithful
      refine ⟨now ++ more, first.trans second, fun flowing inTime => ?_⟩
      rw [← List.append_assoc]
      rcases flows flowing with still | ⟨inactive, done⟩
      · -- One frame less waits, and what was accepted is the same.
        have same : ((r.take s.connection 1).2.channel (s.startFrame f).connection)
            = ((r.channel s.connection).take 1).2 := by
          rw [connection_startFrame, channel_take]
        obtain ⟨-, -, queue⟩ := take_of_queue next
        rw [same] at all
        refine all still ?_
        rw [next, List.length_cons] at inTime
        rw [queue]
        omega
      · have nothing : more = [] := by
          have transit := second.transit
          rw [transit_of_inactive inactive] at transit
          exact List.self_eq_append_right.mp transit
        rw [nothing, List.append_nil, done]

/-! ## Writers as readers of a channel -/

/-- Between two states of the relay, a reader of a connection has come. -/
def ReadBy (id : ConnId) (r r' : Relay) : Prop :=
  ∃ events : List World.Event, (∀ ev ∈ events, ev.reader? = some id) ∧
    ∀ calls, World.run ⟨r, calls⟩ events = ⟨r', calls⟩

theorem ReadBy.refl (id : ConnId) (r : Relay) : ReadBy id r r :=
  ⟨[], fun _ mem => absurd mem List.not_mem_nil, fun _ => rfl⟩

theorem ReadBy.trans {id : ConnId} {r₁ r₂ r₃ : Relay} (first : ReadBy id r₁ r₂)
    (second : ReadBy id r₂ r₃) : ReadBy id r₁ r₃ := by
  obtain ⟨before, reads, same⟩ := first
  obtain ⟨after, reads', same'⟩ := second
  refine ⟨before ++ after, fun ev mem => ?_, fun calls => ?_⟩
  · rcases List.mem_append.mp mem with mem | mem
    · exact reads ev mem
    · exact reads' ev mem
  · rw [World.run_append, same, same']

theorem readBy_take (id : ConnId) (r : Relay) (count : Nat) : ReadBy id r (r.take id count).2 := by
  refine ⟨[.take id count], fun ev mem => ?_, fun _ => rfl⟩
  rw [List.mem_singleton.mp mem]
  rfl

theorem readBy_drop (id : ConnId) (r : Relay) : ReadBy id r (r.drop id) := by
  refine ⟨[.drop id], fun ev mem => ?_, fun _ => rfl⟩
  rw [List.mem_singleton.mp mem]
  rfl

/-- A turn of the writer is reading, as far as the relay can tell. -/
theorem readBy_write (s : Socket) (r : Relay) (fuel : Nat) :
    ReadBy s.connection r (s.write fuel r).2 := by
  induction fuel generalizing s r with
  | zero => exact .refl ..
  | succ fuel ih =>
    have pass := pass_write s r fuel
    generalize s.write (fuel + 1) r = result at pass ⊢
    cases pass with
    | stuck isStuck => exact .refl ..
    | @begins f rest active next =>
      have later := ih (s.startFrame f) (r.take s.connection 1).2
      rw [connection_startFrame] at later
      exact (readBy_take ..).trans later
    | waits active empty => exact readBy_take ..
    | ends active empty => exact (readBy_take ..).trans (readBy_drop ..)
    | stops inactive => exact readBy_drop ..

/-- So is the end of a socket that expires. -/
theorem readBy_expire (s : Socket) (r : Relay) : ReadBy s.connection r (s.expire r).2 := by
  unfold expire
  split
  · split
    · exact readBy_drop ..
    · exact .refl ..
  · exact .refl ..

end Socket

end WebSocket

end Rendezvous
