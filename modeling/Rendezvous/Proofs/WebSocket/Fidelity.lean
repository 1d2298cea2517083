import Mathlib.Data.List.Infix
import Rendezvous.Proofs.Signaling.Parting
import Rendezvous.Proofs.WebSocket.Bridge

/-!
# Fidelity

What a client of a room sends over its WebSocket is what the other client gets over its own:
the envelopes, in order and each once, up to the first message that is none. The invariant of
`Bridge` tells what has arrived. `Rephrased` says which of the things a client may do instead
make no difference, and `agree_run` that they make none.
-/

namespace Rendezvous.WebSocket

open Signaling (Serving)

namespace Bridge

/-! ## What makes no difference -/

/-- The events differ only in what the sender's client says, and there only in what makes no
difference: in pings and pongs, in how a message is put, and in all that it says behind the
first message that is no envelope. `ended` tells that this one has been said. -/
inductive Rephrased : Bool → List Event → List Event → Prop
  | nil (ended : Bool) : Rephrased ended [] []
  | same {ended : Bool} {ev : Event} {events events' : List Event} (silent : ev.said? = none)
    (rest : Rephrased ended events events') : Rephrased ended (ev :: events) (ev :: events')
  | speaks {ended : Bool} {m m' : Message} {events events' : List Event}
    (alike : m.gist? = m'.gist?)
    (rest : Rephrased (ended || ends m.gist?.toList) events events') :
    Rephrased ended (.speaks m :: events) (.speaks m' :: events')
  | skipsLeft {ended : Bool} {m : Message} {events events' : List Event}
    (idle : ended = true ∨ m.gist? = none) (rest : Rephrased ended events events') :
    Rephrased ended (.speaks m :: events) events'
  | skipsRight {ended : Bool} {m : Message} {events events' : List Event}
    (idle : ended = true ∨ m.gist? = none) (rest : Rephrased ended events events') :
    Rephrased ended events (.speaks m :: events')

/-- Two bridges have come to the same. -/
structure Agree (ended : Bool) (b b' : Bridge) : Prop where
  relay : b'.relay = b.relay
  receiver : b'.receiver = b.receiver
  present : b.sender.isOver = false ∧ b'.sender.isOver = false
  up : b.sender.link = .up ∧ b'.sender.link = .up
  same : Same b.sender.serving b'.sender.serving
  stays : ended = true → ends (outlook b.sender.serving) = true

section
variable {ended : Bool} {b b' : Bridge}

theorem agree_refl {code : String} {role : Role} (tracks : Tracks b.sender.serving code role)
    (present : b.sender.isOver = false) (up : b.sender.link = .up) : Agree false b b :=
  ⟨rfl, rfl, ⟨present, present⟩, ⟨up, up⟩, .refl tracks.started tracks.first, nofun⟩

/-- Whatever else happens, happens to both. -/
theorem Agree.step (h : Agree ended b b') {ev : Event} (silent : ev.said? = none) :
    Agree ended (b.step ev) (b'.step ev) := by
  obtain ⟨_, sender, _⟩ := b
  obtain ⟨q, sender', receiver⟩ := b'
  obtain ⟨rfl, rfl, present, up, same, stays⟩ := h
  cases ev with
  | speaks m => cases silent
  | serves =>
    rcases same.step q with ⟨waits, waits'⟩ | ⟨t, t', r, steps, steps', same', lasts⟩
    · rw [Bridge.step, Bridge.step, waits, waits']
      exact ⟨rfl, rfl, present, up, same, stays⟩
    · rw [Bridge.step, Bridge.step, steps, steps']
      exact ⟨rfl, rfl, present, up, same', fun ended => lasts (stays ended)⟩
  | moves serving =>
    rw [Bridge.step, Bridge.step]
    dsimp only
    split <;> exact ⟨rfl, rfl, present, up, same, stays⟩
  | turns | writes | views | answers | elsewhere => exact ⟨rfl, rfl, present, up, same, stays⟩

/-- Both clients say what means the same. -/
theorem Agree.speaks (h : Agree ended b b') {m m' : Message} (alike : m.gist? = m'.gist?) :
    Agree (ended || ends m.gist?.toList) (b.step (.speaks m)) (b'.step (.speaks m')) := by
  have received := b.sender.received_receive m
  have received' := b'.sender.received_receive m'
  obtain ⟨first, first'⟩ := h.same.first_ne
  have ahead := outlook_receive h.present.1 h.up.1 first m
  have ahead' := outlook_receive h.present.2 h.up.2 first' m'
  refine ⟨h.relay, h.receiver,
    ⟨received.isOver.trans h.present.1, received'.isOver.trans h.present.2⟩,
    ⟨received.link.trans h.up.1, received'.link.trans h.up.2⟩,
    h.same.grows (b.sender.grown_receive m) (b'.sender.grown_receive m') ?_, fun late => ?_⟩
  · show outlook (b'.sender.receive m').serving = outlook (b.sender.receive m).serving
    rw [ahead, ahead', h.same.ahead, alike]
  · show ends (outlook (b.sender.receive m).serving) = true
    rw [ahead, ends_untilEnd, ends, List.any_append, Bool.or_eq_true]
    rw [Bool.or_eq_true] at late
    exact late.imp_left h.stays

/-- One client says what makes no difference. -/
theorem Agree.skips (h : Agree ended b b') {m : Message} (idle : ended = true ∨ m.gist? = none) :
    Agree ended (b.step (.speaks m)) b' ∧ Agree ended b (b'.step (.speaks m)) := by
  obtain ⟨first, first'⟩ := h.same.first_ne
  have ahead := outlook_of_idle h.present.1 h.up.1 first (idle.imp_left h.stays)
  have ahead' := outlook_of_idle h.present.2 h.up.2 first' (m := m)
    (idle.imp_left fun late => h.same.ahead ▸ h.stays late)
  have received := b.sender.received_receive m
  have received' := b'.sender.received_receive m
  refine ⟨⟨h.relay, h.receiver, ⟨received.isOver.trans h.present.1, h.present.2⟩,
    ⟨received.link.trans h.up.1, h.up.2⟩,
    h.same.grows (b.sender.grown_receive m) (.refl _) (h.same.ahead.trans ahead.symm),
    fun late => ?_⟩, ⟨h.relay, h.receiver, ⟨h.present.1, received'.isOver.trans h.present.2⟩,
    ⟨h.up.1, received'.link.trans h.up.2⟩,
    h.same.grows (.refl _) (b'.sender.grown_receive m) (ahead'.trans h.same.ahead), h.stays⟩⟩
  show ends (outlook (b.sender.receive m).serving) = true
  rw [ahead]
  exact h.stays late

/-- **What makes no difference makes none**, however it is mixed with all else. -/
theorem agree_run {events events' : List Event} (rephrased : Rephrased ended events events')
    (h : Agree ended b b') : ∃ ended', Agree ended' (b.run events) (b'.run events') := by
  induction rephrased generalizing b b' with
  | nil ended => exact ⟨ended, h⟩
  | same silent rest ih => exact ih (h.step silent)
  | speaks alike rest ih => exact ih (h.speaks alike)
  | skipsLeft idle rest ih => exact ih (h.skips idle).1
  | skipsRight idle rest ih => exact ih (h.skips idle).2

end

/-- In every run of the world in which no connection is shared, who sits in a slot sits in that
one only, and has been sent nothing but envelopes. -/
theorem keeps_of_run (limits : Limits) (candidates : Nat → String)
    {past : List Signaling.World.Event} (exclusive : Signaling.World.Exclusive past) {id : ConnId}
    {code : String} {role : Role}
    (seated : ((Signaling.World.start limits candidates).run past).relay.Seated id code role) :
    ((Signaling.World.start limits candidates).run past).relay.Keeps id code role := by
  have orderly := Signaling.World.orderly_run limits candidates exclusive
  obtain ⟨c, mem, rfl, isIn⟩ := orderly.tenanted.tenant seated
  refine ⟨orderly.tenanted.keyed, seated, fun sits => orderly.tenanted.unique sits seated,
    Signaling.World.sound_run limits candidates past _, ?_⟩
  have said := orderly.said c mem
  rcases isIn with phase | phase <;> rw [phase] at said <;> exact said.2 ⟨code, role, seated⟩

/-- **What one client says, the other gets.** Let the world have come to where somebody, by a
WebSocket, sits opposite to a role of a room, and let the client of another have subscribed as
that role, whether before or after. Whatever both do, and whatever else happens to the relay, as
long as the receiver keeps its slot and keeps reading: what was relayed for the sender is the
first part of what was heard from it, and all of it once its call has nothing left to read,
which takes only so many steps. When the writer then gets a turn and the client reads, what it
has seen is what had come before and the texts of just these envelopes, in order, with nothing
between them but what others have sent. To whatever the sender's client might have said instead
that differs in pings and pongs, in the kind of message a text is in, or behind the first
message that is no envelope, neither the relay nor the receiver shows a difference. -/
theorem relayed_in_full (limits : Limits) (candidates : Nat → String)
    {past : List Signaling.World.Event} (exclusive : Signaling.World.Exclusive past)
    {start : Bridge}
    (relay : start.relay = ((Signaling.World.start limits candidates).run past).relay)
    (active : start.receiver.writer = .active) {code : String} {role : Role}
    (subscribed : start.sender.Subscribed code role)
    (apart : start.sender.connection ≠ start.receiver.connection)
    {events : List Event} (spares : ∀ ev ∈ events, ev.Spares start.receiver.connection)
    (kept : ∀ earlier, earlier <+: events → (start.run earlier).Kept code role)
    {b : Bridge} (reached : b = start.run events) :
    (∃ own all, own <+: heard (events.filterMap Event.said?) ∧
      (b.sender.serving.step? b.relay = none → own = heard (events.filterMap Event.said?)) ∧
      Woven own (events.filterMap (Event.other? code role.peer)) all ∧
      ∀ fuel, b.channel.queue.length < fuel →
        texts (b.run [.writes fuel, .views]).receiver.seen
          = start.receiver.given start.relay ++ all.map Envelope.wireText) ∧
    (∀ n, b.sender.serving.waiting.length + 3 ≤ n →
      (b.run (List.replicate n .serves)).sender.serving.step?
        (b.run (List.replicate n .serves)).relay = none) ∧
    ∀ events', Rephrased false events events' →
      (start.run events').relay = b.relay ∧ (start.run events').receiver = b.receiver := by
  subst reached
  -- At the start nothing has been said, and what was given before counts as given.
  have carries : start.Carries (start.receiver.given start.relay) code role [] [] := by
    have seated : start.relay.Seated start.receiver.connection code role.peer :=
      (kept [] List.nil_prefix).seated
    refine ⟨apart, subscribed.present, subscribed.up, subscribed.tracks, ?_, active,
      [], [], subscribed.silent, .nil, (List.append_nil _).symm⟩
    rw [relay] at seated ⊢
    exact keeps_of_run limits candidates exclusive seated
  have carried := carries_run carries spares kept
  rw [List.nil_append, List.nil_append] at carried
  have last := kept events (List.prefix_refl _)
  obtain ⟨own, all, part, whole, woven, given⟩ := carried.relayed
  refine ⟨⟨own, all, part, whole, woven, fun fuel inTime => ?_⟩, fun n enough => ?_,
    fun events' rephrased => ?_⟩
  · rw [carried.seen last inTime, given]
  · exact rests_of_serves (Nat.le_trans (rank_le _) enough)
  · obtain ⟨_, agree⟩ :=
      agree_run rephrased (agree_refl subscribed.tracks subscribed.present subscribed.up)
    exact ⟨agree.relay, agree.receiver⟩

/-- A viewer has joined its room, and the presenter's client has opened a connection. -/
def seating : List Signaling.World.Event :=
  [.create "host", .connect 2, .connect 2, .serve ⟨0⟩,
    .read 0 (some (.text "\x7b\"roomCode\":\"room\",\"role\":\"viewer\"\x7d"))]

theorem exclusive_seating : Signaling.World.Exclusive seating where
  once := by decide
  alone code role id mem := by simp [seating] at mem

/-- The viewer's socket. -/
def audience : Socket :=
  { Socket.fresh ⟨0⟩ true with serving := ⟨⟨⟨0⟩, .relaying "room" .viewer⟩, [], false, true⟩ }

/-- The presenter's client asks for its slot. -/
def subscribing : String := "\x7b\"roomCode\":\"room\",\"role\":\"presenter\"\x7d"

/-- Where they are. -/
def stage : Bridge :=
  ⟨((Signaling.World.start ⟨4, 2⟩ fun _ => "room").run seating).relay,
    (Socket.fresh ⟨1⟩ true).receive (.text subscribing), audience⟩

/-- A message of some kind, as a client puts it. -/
def putting (kind : String) : String :=
  "\x7b\"type\":\"" ++ kind ++ "\",\"trackType\":\"video\"\x7d"

/-- What somebody else sends to the viewer. -/
def interjection : Envelope := ⟨.answer, .null, "audio"⟩

/-- The presenter's client sends an offer while its call is still about to begin, a ping, a
candidate in bytes, something that is no envelope, and an answer. -/
def talk : List Event :=
  [.speaks (.text (putting "offer")), .serves, .serves, .speaks (.ping [1]),
    .speaks (.binary (putting "candidate").toUTF8.toList), .writes 1,
    .elsewhere (.within "room" (.relay .viewer interjection)), .answers (.ping [2]), .views,
    .speaks (.text "none"), .writes 4, .serves, .speaks (.text (putting "answer")), .serves,
    .serves, .serves]

/-- It sends the candidate in a text, and no more. -/
def shortTalk : List Event :=
  [.speaks (.text (putting "offer")), .serves, .serves,
    .speaks (.text (putting "candidate")), .writes 1,
    .elsewhere (.within "room" (.relay .viewer interjection)), .answers (.ping [2]), .views,
    .speaks (.close none), .writes 4, .serves, .serves, .serves, .serves]

/-- The frames of the talk can be left out or put in other words. -/
theorem rephrased_talk : Rephrased false talk shortTalk := by
  have bytes : (Message.binary (putting "candidate").toUTF8.toList).text? =
      some (putting "candidate") := by decide +kernel
  have inBytes : (Message.binary (putting "candidate").toUTF8.toList).gist? =
      (Message.text (putting "candidate")).gist? := by
    show some (Option.bind (Message.text? _) _) = some (Option.bind _ _)
    rw [bytes]
    rfl
  have nothing : (Envelope.ofText "none").toOption.isNone = true := by decide +kernel
  have noEnvelope : (Message.text "none").gist? = (Message.close none).gist? :=
    congrArg some (Option.isNone_iff_eq_none.mp nothing)
  exact .speaks rfl <| .same rfl <| .same rfl <| .skipsLeft (Or.inr rfl) <| .speaks inBytes <|
    .same rfl <| .same rfl <| .same rfl <| .same rfl <| .speaks noEnvelope <| .same rfl <|
    .same rfl <| .skipsLeft (Or.inl (by decide +kernel)) <| .same rfl <| .same rfl <| .same rfl <|
    .nil _

/-- Everything that was said gets through, and in its order. -/
theorem relayed_in_full_talk :
    let b := stage.run talk
    let said := heard (talk.filterMap Event.said?)
    said.length = 2 ∧ b.sender.serving.step? b.relay = none ∧
    (∃ all, Woven said [interjection] all ∧
      texts (b.run [.writes 2, .views]).receiver.seen = all.map Envelope.wireText) ∧
    (stage.run shortTalk).relay = b.relay ∧ (stage.run shortTalk).receiver = b.receiver := by
  intro b said
  have kept : ∀ earlier, earlier <+: talk → (stage.run earlier).Kept "room" .presenter := by
    have all : ∀ earlier ∈ talk.inits, (stage.run earlier).Kept "room" .presenter := by
      decide +kernel
    intro earlier isPrefix
    exact all earlier ((List.mem_inits _ _).mpr isPrefix)
  have asks : Subscription.ofText subscribing = .ok ⟨"room", .presenter⟩ := by
    have read : (Subscription.ofText subscribing).toOption = some ⟨"room", .presenter⟩ := by
      decide +kernel
    cases asked : Subscription.ofText subscribing with
    | ok s => rw [asked] at read; cases read; rfl
    | error fault => rw [asked] at read; cases read
  have rests : b.sender.serving.step? b.relay = none :=
    Option.isNone_iff_eq_none.mp (by decide +kernel)
  have silent : ∀ m ∈ ([] : List Message), m.isControl = true := by simp
  have subscribed : stage.sender.Subscribed "room" .presenter :=
    Socket.subscribed_first ⟨1⟩ true silent (m := .text subscribing) rfl asks
  have relay : stage.relay =
      ((Signaling.World.start ⟨4, 2⟩ fun _ => "room").run seating).relay := rfl
  have spares : ∀ ev ∈ talk, ev.Spares stage.receiver.connection := by
    simp [talk, Event.Spares, Deed.Concerns, Deed.reader?, Session.Event.reader?]
  obtain ⟨⟨own, all, -, whole, woven, seen⟩, -, same⟩ := relayed_in_full ⟨4, 2⟩ (fun _ => "room")
    exclusive_seating relay rfl subscribed (by decide) spares kept (b := b) rfl
  obtain rfl := whole rests
  have others : talk.filterMap (Event.other? "room" .viewer) = [interjection] := rfl
  refine ⟨by decide +kernel, rests, ⟨all, others ▸ woven, ?_⟩, same shortTalk rephrased_talk⟩
  exact seen 2 (by decide +kernel)

end Bridge

end Rendezvous.WebSocket
