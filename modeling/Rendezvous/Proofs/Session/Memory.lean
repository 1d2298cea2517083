import Rendezvous.Proofs.Session.Cache

/-!
# What a side remembers of a run

A side is told of two sequences of messages: those it receives and those it sends.
`Side.Follows` says what it still knows of them. Its queue is the end of what it
received, and empty as long as it has a connection. What its caches hold of a kind
and a track is the latest of that kind and track it sent, although not everything
it sent was cached.

Each event keeps this (`follows_step`), so it holds after every run (`follows_run`).
It is the one fact about reachable states that what is handed to a connection on
attaching rests on.
-/

namespace Rendezvous

namespace Envelope

/-- The last envelope of a kind about a track. -/
def latest (k : Kind) (track : String) (es : List Envelope) : Option Envelope :=
  (es.filter (isAbout k track)).getLast?

/-- The latest of two stretches is that of the second, if there is one in it. -/
theorem latest_append (k : Kind) (track : String) (before after : List Envelope) :
    latest k track (before ++ after) = (latest k track after).or (latest k track before) := by
  rw [latest, List.filter_append, List.getLast?_append]
  rfl

theorem latest_snoc_of_isAbout {k : Kind} {track : String} {e : Envelope}
    (about : e.isAbout k track = true) (es : List Envelope) :
    latest k track (es ++ [e]) = some e := by
  rw [latest, List.filter_append, List.filter_cons_of_pos about, List.filter_nil,
    List.getLast?_append, List.getLast?_singleton]
  rfl

theorem latest_snoc_of_not_isAbout {k : Kind} {track : String} {e : Envelope}
    (other : e.isAbout k track = false) (es : List Envelope) :
    latest k track (es ++ [e]) = latest k track es := by
  rw [latest, List.filter_append, List.filter_cons_of_neg (by simp [other]), List.filter_nil,
    List.append_nil, latest]

theorem latest_eq_none_iff {k : Kind} {track : String} {es : List Envelope} :
    latest k track es = none ↔ ∀ e ∈ es, e.isAbout k track = false := by
  rw [latest, List.getLast?_eq_none_iff, List.filter_eq_nil_iff]
  simp only [Bool.not_eq_true]

theorem mem_of_latest {k : Kind} {track : String} {es : List Envelope} {e : Envelope}
    (h : latest k track es = some e) : e ∈ es ∧ e.isAbout k track = true :=
  List.mem_filter.mp (List.mem_of_getLast? h)

/-- If the end of a list has an envelope about something, the last one there is the
last one of all. -/
theorem latest_of_suffix {k : Kind} {track : String} {ending es : List Envelope} {e : Envelope}
    (h : ending <:+ es) (last : latest k track ending = some e) : latest k track es = some e := by
  obtain ⟨before, rfl⟩ := h
  rw [latest_append, last]
  rfl

end Envelope

/-! ## One side -/

namespace Side

/-- What a side knows of the messages it received and of those it sent. -/
structure Follows (limits : Limits) (received sent : List Envelope) (side : Side) : Prop where
  /-- Nothing waits for a side that has a connection. -/
  drained : side.slot.connection ≠ none → side.pending = []
  bounded : side.pending.length ≤ max 1 limits.pending
  /-- What waits is the end of what was received. -/
  suffix : side.pending <:+ received
  caches : side.CachesSound
  /-- What is cached is the latest of its kind and track that was sent. -/
  latest : ∀ {k track e}, side.cached? k track = some e → Envelope.latest k track sent = some e

section
variable {limits : Limits} {received sent : List Envelope} {side : Side}

/-- A queue that is within its limit stays there, and a limit of zero admits one message all the
same. -/
theorem length_enqueue_le (limit : Nat) (e : Envelope) {waiting : List Envelope}
    (h : waiting.length ≤ max 1 limit) :
    (Session.enqueue limit e waiting).length ≤ max 1 limit := by
  unfold Session.enqueue
  split
  next full =>
    rw [List.length_append, List.length_tail, List.length_singleton]
    omega
  next room =>
    rw [List.length_append, List.length_singleton]
    omega

/-- Whether the oldest is lost or not, a queued message is the end of what was
received behind the end of what was received before. -/
theorem enqueue_suffix (limit : Nat) (e : Envelope) {waiting : List Envelope}
    (h : waiting <:+ received) : Session.enqueue limit e waiting <:+ received ++ [e] := by
  have snoc : ∀ {ending : List Envelope}, ending <:+ received →
      ending ++ [e] <:+ received ++ [e] := by
    rintro ending ⟨before, rfl⟩
    exact ⟨before, (List.append_assoc ..).symm⟩
  unfold Session.enqueue
  split
  · exact snoc ((List.tail_suffix waiting).trans h)
  · exact snoc h

/-- A side that receives a message remembers a longer past of messages received. -/
theorem follows_receive (h : side.Follows limits received sent) (e : Envelope) :
    (side.receive limits.pending e).Follows limits (received ++ [e]) sent := by
  cases connected : side.slot.connection with
  | some id =>
    -- Nothing waited, and nothing is queued while there is a connection.
    have nothing : side.pending = [] := h.drained (by rw [connected]; exact Option.some_ne_none id)
    have still : (side.receive limits.pending e).pending = [] := by
      rw [receive, connected]
      exact nothing
    refine ⟨fun _ => still, ?_, ?_, ⟨h.caches.offers, h.caches.answers⟩, h.latest⟩
    · rw [still]
      exact Nat.zero_le _
    · rw [still]
      exact List.nil_suffix
  | none =>
    have queued : (side.receive limits.pending e).pending
        = Session.enqueue limits.pending e side.pending := by
      rw [receive, connected]
      rfl
    refine ⟨fun live => absurd connected live, ?_, ?_,
      ⟨h.caches.offers, h.caches.answers⟩, h.latest⟩
    · rw [queued]
      exact length_enqueue_le _ _ h.bounded
    · rw [queued]
      exact enqueue_suffix _ _ h.suffix

/-- A side that sends a message remembers a longer past of messages sent. -/
theorem follows_remember (h : side.Follows limits received sent) (e : Envelope) :
    (side.remember limits.tracks e).Follows limits received (sent ++ [e]) where
  drained := by
    rw [slot_remember, pending_remember]
    exact h.drained
  bounded := by
    rw [pending_remember]
    exact h.bounded
  suffix := by
    rw [pending_remember]
    exact h.suffix
  caches := cachesSound_remember h.caches _ e
  latest := by
    intro k track x found
    -- Whether `e` was cached or turned away, nothing older is found in its stead.
    cases about : e.isAbout k track with
    | true =>
      rw [cached?_remember_of_isAbout about found]
      exact Envelope.latest_snoc_of_isAbout about sent
    | false =>
      rw [cached?_remember_of_not_isAbout about] at found
      rw [Envelope.latest_snoc_of_not_isAbout about]
      exact h.latest found

/-- A side that is joined has handed over its queue; its caches stay. -/
theorem follows_connect (h : side.Follows limits received sent) (id : ConnId) :
    (side.connect id).Follows limits received sent :=
  ⟨fun _ => rfl, Nat.zero_le _, List.nil_suffix, ⟨h.caches.offers, h.caches.answers⟩, h.latest⟩

/-- A slot may be changed freely, as long as no connection is put into it. -/
theorem follows_withSlot (h : side.Follows limits received sent) {slot : Slot}
    (none : slot.connection ≠ none → side.slot.connection ≠ none) :
    (side.withSlot slot).Follows limits received sent :=
  ⟨fun live => h.drained (none live), h.bounded, h.suffix,
    ⟨h.caches.offers, h.caches.answers⟩, h.latest⟩

theorem connection_released (side : Side) (role : Role) :
    (side.released role).connection = none := by
  cases role <;> rfl

/-- What is not a message changes the slot at most, or hands out the queue. -/
theorem follows_of_no_relay {role : Role} (h : side.Follows limits received sent)
    {ev : Session.Event} (noRelay : ∀ destination e, ev ≠ .relay destination e) :
    (side.step limits role ev).Follows limits received sent := by
  cases ev with
  | relay destination e => exact absurd rfl (noRelay destination e)
  | attach r id =>
    rw [step]
    split
    · exact follows_connect h id
    · exact h
  | detach r id =>
    -- A slot that was let go holds nobody, so nobody is live there to be spoken of.
    rw [step]
    split
    · exact follows_withSlot h fun live => absurd (connection_released side role) live
    · exact h
  | claim user =>
    rw [step]
    split
    · exact follows_withSlot h fun live => live
    · exact h
  | clear =>
    rw [step]
    split
    · exact follows_withSlot h fun live => absurd rfl live
    · exact h
  | close reason => exact follows_withSlot h fun live => absurd rfl live
  | connect capacity | take id count | drop id | wait milliseconds => exact h

/-- **An event keeps what a side knows**, of everything received and sent with it. -/
theorem follows_step {role : Role} (h : side.Follows limits received sent) (ev : Session.Event) :
    (side.step limits role ev).Follows limits (received ++ (ev.message? role).toList)
      (sent ++ (ev.message? role.peer).toList) := by
  cases ev with
  | relay destination e =>
    -- A message is for one side, and from the other.
    rw [step, Session.Event.message?, Session.Event.message?]
    by_cases mine : destination = role
    · have notSent : destination ≠ role.peer := mine ▸ (Role.peer_ne destination).symm
      rw [if_pos mine, if_pos mine, if_neg notSent, Option.toList_none, List.append_nil]
      exact follows_receive h e
    · have fromMe : destination = role.peer :=
        (Role.eq_or_eq_peer role destination).resolve_left mine
      rw [if_neg mine, if_neg mine, if_pos fromMe, Option.toList_none, List.append_nil]
      exact follows_remember h e
  | _ =>
    show Follows _ (received ++ []) (sent ++ []) _
    rw [List.append_nil, List.append_nil]
    exact follows_of_no_relay h fun _ _ same => by cases same

end

end Side

/-! ## Runs -/

namespace Session

/-- A side begins with nothing to remember. -/
theorem follows_start (code presenter : String) (limits : Limits) (now : Instant) (role : Role) :
    ((Stage.start code presenter limits now).session.side role).Follows limits [] [] := by
  cases role <;> exact
    ⟨fun _ => rfl, Nat.zero_le _, List.nil_suffix,
      ⟨TrackCache.sound_empty _, TrackCache.sound_empty _⟩,
      fun {k} {_ _} found => by cases k <;> cases found⟩

/-- **What a side knows after any run**: of what was relayed to its role, and of what
was relayed to the other. -/
theorem follows_run (code presenter : String) (limits : Limits) (now : Instant)
    (events : List Event) (role : Role) :
    (((Stage.start code presenter limits now).run events).session.side role).Follows limits
      (relayedTo role events) (relayedTo role.peer events) := by
  induction events using List.reverseRecOn with
  | nil => exact follows_start ..
  | append_singleton events ev ih =>
    rw [Stage.run_snoc, side_step, limits_run, relayedTo_snoc, relayedTo_snoc]
    exact Side.follows_step ih ev

end Session

end Rendezvous
