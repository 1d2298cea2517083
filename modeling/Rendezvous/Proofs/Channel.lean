import Rendezvous.Channel

/-!
# What channels take

A channel that is offered frames takes them in order until it is full, and after
that none of them: `offerAll_eq` is the one equation through which everything
pushed on a connection is known. What was accepted is never taken back, not by a
reader (`accepted_take`) and not by a reader that goes away (`accepted_drop`), so
`accepted` is the record of a connection for all time.

The second half says the same of the connections by name: what is done to one of
them shows in that one only.
-/

namespace Rendezvous

/-- The envelope of a frame that carries one. -/
def Frame.envelope? : Frame → Option Envelope
  | .envelope e => some e
  | .error _ | .close _ => none

namespace Channel

/-- No more frames have been taken off the queue than were accepted. -/
def Sound (c : Channel) : Prop := c.taken ≤ c.accepted.length

/-- How many more frames the channel would take. -/
def free (c : Channel) : Nat := if c.listening then c.room else 0

/-- The channel after a frame was offered to it, which it may have refused. -/
def offer (c : Channel) (f : Frame) : Channel := (c.push f).toOption.getD c

/-- The channel after frames were offered to it, one after the other. -/
def offerAll (c : Channel) (frames : List Frame) : Channel := frames.foldl offer c

/-- The envelopes among the frames accepted so far. -/
def envelopes (c : Channel) : List Envelope := c.accepted.filterMap Frame.envelope?

/-- To offer frames in two goes is to offer them in one. -/
theorem offerAll_append (c : Channel) (before after : List Frame) :
    c.offerAll (before ++ after) = (c.offerAll before).offerAll after := List.foldl_append ..

/-- The channel takes one more frame behind so many others if there is a reader and a place. -/
theorem lt_free_iff (c : Channel) (ahead : Nat) :
    ahead < c.free ↔ c.listening = true ∧ c.queue.length + ahead < c.capacity := by
  unfold free room
  cases c.listening with
  | false => simp
  | true =>
    simp only [true_and, if_true]
    omega

/-- The next frame is refused unless there is a place for it. -/
theorem refusal?_eq_none_iff (c : Channel) : c.refusal? = none ↔ 0 < c.free := by
  unfold refusal? free room
  cases c.listening with
  | false => simp
  | true =>
    simp only [Bool.not_true, Bool.false_eq_true, if_false, if_true, ite_eq_right_iff, reduceCtorEq,
      imp_false]
    omega

theorem offer_of_free {c : Channel} (h : 0 < c.free) (f : Frame) :
    c.offer f = { c with accepted := c.accepted ++ [f] } := by
  rw [offer, push_of_none ((refusal?_eq_none_iff c).mpr h)]
  rfl

/-- Without one the channel stays as it is. -/
theorem offer_of_full {c : Channel} (h : c.free = 0) (f : Frame) : c.offer f = c := by
  cases refused : c.refusal? with
  | none =>
    have free := (refusal?_eq_none_iff c).mp refused
    omega
  | some r =>
    rw [offer, push_of_refusal refused]
    rfl

/-- A frame is taken if somebody reads the channel and there is a place for it. -/
theorem offer_eq (c : Channel) (f : Frame) :
    c.offer f = if c.listening = true ∧ c.queue.length < c.capacity
      then { c with accepted := c.accepted ++ [f] } else c := by
  have free : 0 < c.free ↔ c.listening = true ∧ c.queue.length < c.capacity := lt_free_iff c 0
  rcases Nat.eq_zero_or_pos c.free with full | isRoom
  · rw [offer_of_full full, if_neg]
    rw [← free, full]
    exact Nat.lt_irrefl 0
  · rw [offer_of_free isRoom, if_pos (free.mp isRoom)]

/-- Accepted frames wait behind those that wait already. -/
theorem queue_length_append {c : Channel} (sound : c.Sound) (frames : List Frame) :
    ({ c with accepted := c.accepted ++ frames } : Channel).queue.length
      = c.queue.length + frames.length := by
  have bound : c.taken ≤ c.accepted.length := sound
  show ((c.accepted ++ frames).drop c.taken).length = (c.accepted.drop c.taken).length + _
  rw [List.length_drop, List.length_drop, List.length_append]
  omega

/-- Each accepted frame takes a place. -/
theorem free_append {c : Channel} (sound : c.Sound) (frames : List Frame) :
    ({ c with accepted := c.accepted ++ frames } : Channel).free = c.free - frames.length := by
  unfold free room
  rw [queue_length_append sound]
  show (if c.listening = true then c.capacity - (c.queue.length + frames.length) else 0) = _
  split
  · omega
  · rw [Nat.zero_sub]

/-- To accept more does not make the reader run ahead. -/
theorem sound_append {c : Channel} (sound : c.Sound) (frames : List Frame) :
    ({ c with accepted := c.accepted ++ frames } : Channel).Sound := by
  have bound : c.taken ≤ c.accepted.length := sound
  show c.taken ≤ (c.accepted ++ frames).length
  rw [List.length_append]
  omega

/-- **What is taken of what is offered**: as many of the first frames as there is
room for, in order, and nothing else changes. -/
theorem offerAll_eq {c : Channel} (sound : c.Sound) (frames : List Frame) :
    c.offerAll frames = { c with accepted := c.accepted ++ frames.take c.free } := by
  induction frames generalizing c with
  | nil =>
    rw [List.take_nil, List.append_nil]
    rfl
  | cons f rest ih =>
    show (c.offer f).offerAll rest = _
    -- A full channel stays as it is; any other has one place less for the rest.
    rcases Nat.eq_zero_or_pos c.free with full | free
    · rw [offer_of_full full, ih sound, full, List.take_zero, List.take_zero]
    · rw [offer_of_free free, ih (sound_append sound [f]), free_append sound]
      obtain ⟨n, hn⟩ : ∃ n, c.free = n + 1 := ⟨c.free - 1, by omega⟩
      rw [hn, List.take_succ_cons, List.length_singleton, Nat.add_sub_cancel,
        List.append_assoc, List.singleton_append]

/-- Offering frames does not drive a reader away. -/
theorem listening_offerAll (c : Channel) (frames : List Frame) :
    (c.offerAll frames).listening = c.listening := by
  induction frames generalizing c with
  | nil => rfl
  | cons f rest ih =>
    show ((c.offer f).offerAll rest).listening = _
    rw [ih]
    rcases Nat.eq_zero_or_pos c.free with full | free
    · rw [offer_of_full full]
    · rw [offer_of_free free]

/-- A channel stays sound, whatever is offered to it. -/
theorem sound_offerAll {c : Channel} (sound : c.Sound) (frames : List Frame) :
    (c.offerAll frames).Sound := by
  rw [offerAll_eq sound]
  exact sound_append sound _

/-- The envelopes of what a channel accepts come behind those it had accepted. -/
theorem envelopes_append (c : Channel) (frames : List Frame) :
    ({ c with accepted := c.accepted ++ frames } : Channel).envelopes
      = c.envelopes ++ frames.filterMap Frame.envelope? :=
  List.filterMap_append ..

theorem filterMap_envelope?_map (es : List Envelope) :
    (es.map Frame.envelope).filterMap Frame.envelope? = es := by
  rw [List.filterMap_map]
  exact List.filterMap_some

/-- Of the envelopes offered, the channel gains as many of the first as it has room
for. -/
theorem envelopes_offerAll {c : Channel} (sound : c.Sound) (es : List Envelope) :
    (c.offerAll (es.map .envelope)).envelopes = c.envelopes ++ es.take c.free := by
  rw [offerAll_eq sound, envelopes_append, ← List.map_take, filterMap_envelope?_map]

/-- A frame that carries no envelope adds none, whether it is taken or not. -/
theorem envelopes_offer (c : Channel) {f : Frame} (h : f.envelope? = none) :
    (c.offer f).envelopes = c.envelopes := by
  rcases Nat.eq_zero_or_pos c.free with full | free
  · rw [offer_of_full full]
  · rw [offer_of_free free, envelopes_append, List.filterMap_cons_none h, List.filterMap_nil,
      List.append_nil]

/-! ## Readers -/

theorem accepted_take (c : Channel) (count : Nat) : (c.take count).2.accepted = c.accepted := rfl

theorem accepted_drop (c : Channel) : c.drop.accepted = c.accepted := rfl

theorem sound_take (c : Channel) (count : Nat) : (c.take count).2.Sound := Nat.min_le_right ..

theorem sound_drop (c : Channel) : c.drop.Sound := Nat.le_refl _

theorem sound_fresh (capacity : Nat) : (fresh capacity).Sound := Nat.le_refl _

theorem sound_gone : gone.Sound := Nat.le_refl _

end Channel

/-! ## Connections by name -/

namespace Lines

theorem lookup_put_self (id : ConnId) (c : Channel) (table : List (ConnId × Channel)) :
    (put id c table).lookup id = some c := by
  induction table with
  | nil => simp [put]
  | cons entry rest ih =>
    obtain ⟨k, d⟩ := entry
    unfold put
    split
    next same => rw [same, List.lookup_cons_self]
    next differ =>
      rw [List.lookup_cons, beq_false_of_ne (fun e => differ e.symm)]
      exact ih

theorem lookup_put_ne {id other : ConnId} (h : other ≠ id) (c : Channel)
    (table : List (ConnId × Channel)) : (put id c table).lookup other = table.lookup other := by
  induction table with
  | nil => simp [put, List.lookup_cons, beq_false_of_ne h]
  | cons entry rest ih =>
    obtain ⟨k, d⟩ := entry
    unfold put
    split
    next same =>
      subst same
      rw [List.lookup_cons, List.lookup_cons, beq_false_of_ne h]
    next differ => rw [List.lookup_cons, List.lookup_cons, ih]

@[simp] theorem get_set_self (lines : Lines) (id : ConnId) (c : Channel) :
    (lines.set id c).get id = c := by
  rw [get, set, lookup_put_self, Option.getD_some]

theorem get_set_ne {id other : ConnId} (h : other ≠ id) (lines : Lines) (c : Channel) :
    (lines.set id c).get other = lines.get other := by
  rw [get, get, set, lookup_put_ne h]

/-- Every name in use lies below the unused one. -/
theorem index_lt_unused {lines : Lines} {entry : ConnId × Channel} (h : entry ∈ lines.table) :
    entry.1.index < lines.unused.index := by
  -- The fold never falls, and it passes every index of the table.
  have grows : ∀ (table : List (ConnId × Channel)) (n : Nat),
      n ≤ table.foldl (fun n entry => max n (entry.1.index + 1)) n ∧
      ∀ entry ∈ table,
        entry.1.index < table.foldl (fun n entry => max n (entry.1.index + 1)) n := by
    intro table
    induction table with
    | nil => exact fun n => ⟨Nat.le_refl n, fun _ h => absurd h List.not_mem_nil⟩
    | cons first rest ih =>
      intro n
      obtain ⟨above, below⟩ := ih (max n (first.1.index + 1))
      refine ⟨Nat.le_trans (Nat.le_max_left ..) above, fun entry h => ?_⟩
      rcases List.mem_cons.mp h with rfl | later
      · exact Nat.lt_of_lt_of_le (Nat.le_max_right n (entry.1.index + 1)) above
      · exact below entry later
  exact (grows lines.table 0).2 entry h

/-- The unused name is that of no connection. -/
theorem lookup_unused (lines : Lines) : lines.table.lookup lines.unused = none := by
  rw [List.lookup_eq_none_iff]
  intro entry h
  have below := index_lt_unused h
  rw [bne_iff_ne]
  intro same
  rw [← same] at below
  exact Nat.lt_irrefl _ below

theorem get_unused (lines : Lines) : lines.get lines.unused = .gone := by
  rw [get, lookup_unused, Option.getD_none]

/-- A connection that is listened to has been opened, so its name is not given away. -/
theorem ne_unused {lines : Lines} {id : ConnId} (live : (lines.get id).listening = true) :
    id ≠ lines.unused := by
  rintro rfl
  rw [get_unused] at live
  cases live

/-- A connection that was never opened has no frames to take. -/
theorem get_of_unopened {lines : Lines} {id : ConnId} (unopened : ¬ lines.isOpen id = true) :
    lines.get id = .gone := by
  rw [isOpen, Option.not_isSome_iff_eq_none] at unopened
  rw [get, unopened, Option.getD_none]

theorem get_take_self (lines : Lines) (id : ConnId) (count : Nat) :
    (lines.take id count).2.get id = ((lines.get id).take count).2 := by
  unfold take
  show (if lines.isOpen id then _ else lines : Lines).get id = _
  split
  next => exact get_set_self ..
  next unopened =>
    rw [get_of_unopened unopened]
    simp [Channel.take, Channel.gone]

theorem get_drop_self (lines : Lines) (id : ConnId) :
    (lines.drop id).get id = (lines.get id).drop := by
  unfold drop
  split
  next => exact get_set_self ..
  next unopened =>
    rw [get_of_unopened unopened]
    rfl

theorem get_take_ne {id other : ConnId} (h : other ≠ id) (lines : Lines) (count : Nat) :
    (lines.take id count).2.get other = lines.get other := by
  unfold take
  show (if lines.isOpen id then _ else lines : Lines).get other = _
  split
  · exact get_set_ne h ..
  · rfl

theorem get_drop_ne {id other : ConnId} (h : other ≠ id) (lines : Lines) :
    (lines.drop id).get other = lines.get other := by
  unfold drop
  split
  · exact get_set_ne h ..
  · rfl

/-- A channel put in the place of another that had accepted the same changes nothing of
what the connections have accepted. -/
theorem set_spec {lines : Lines} {id : ConnId} {c : Channel}
    (same : c.accepted = (lines.get id).accepted) (sound : c.Sound) (other : ConnId) :
    ((lines.set id c).get other).accepted = (lines.get other).accepted ∧
    ((lines.get other).Sound → ((lines.set id c).get other).Sound) := by
  by_cases h : other = id
  · subst h
    rw [get_set_self]
    exact ⟨same, fun _ => sound⟩
  · rw [get_set_ne h]
    exact ⟨rfl, fun kept => kept⟩

/-- A reader takes nothing away from what was accepted. -/
theorem take_spec (lines : Lines) (id other : ConnId) (count : Nat) :
    ((lines.take id count).2.get other).accepted = (lines.get other).accepted ∧
    ((lines.get other).Sound → ((lines.take id count).2.get other).Sound) := by
  unfold take
  show ((if lines.isOpen id then _ else lines : Lines).get other).accepted = _ ∧ _
  split
  · exact set_spec (Channel.accepted_take ..) (Channel.sound_take ..) other
  · exact ⟨rfl, fun kept => kept⟩

/-- Nor does a reader that goes away. -/
theorem drop_spec (lines : Lines) (id other : ConnId) :
    ((lines.drop id).get other).accepted = (lines.get other).accepted ∧
    ((lines.get other).Sound → ((lines.drop id).get other).Sound) := by
  unfold drop
  split
  · exact set_spec (Channel.accepted_drop _) (Channel.sound_drop _) other
  · exact ⟨rfl, fun kept => kept⟩

/-- A newly opened connection is empty, and so was its name before. -/
theorem open_spec (lines : Lines) (other : ConnId) (capacity : Nat) :
    ((lines.set lines.unused (.fresh capacity)).get other).accepted = (lines.get other).accepted ∧
    ((lines.get other).Sound → ((lines.set lines.unused (.fresh capacity)).get other).Sound) := by
  refine set_spec ?_ (Channel.sound_fresh capacity) other
  rw [get_unused]
  rfl

end Lines

end Rendezvous
