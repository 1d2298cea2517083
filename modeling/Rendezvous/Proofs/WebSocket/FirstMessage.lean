import Rendezvous.Proofs.Signaling.Offers
import Rendezvous.Proofs.WebSocket.Inbox

/-!
# First messages

A connection is served from its first message that says anything. If that is no subscription
to a live room, the client is to be told what is wrong, and to close (`Objection`,
`Answered`), and its connection is read no longer.

All texts are answered so. A binary message that is no text is refused as well, and the
reason is already there; but it comes out of the stream as a failure to read, and after such
a failure the call ends without a word.
-/

namespace Rendezvous.WebSocket

open Signaling (Call Serving Inbound rejection)

/-! ## What is wrong with a first message -/

/-- The message subscribes to a live room. -/
def Subscribes (r : Relay) (m : Message) : Prop :=
  ∃ text s, m.text? = some text ∧ Subscription.ofText text = .ok s ∧ r.isLive s.code = true

/-- What a client is to be told of a first message that does not subscribe to a live room. -/
inductive Objection (r : Relay) (m : Message) : ErrorReport → Prop
  | unreadable (noText : m.text? = none) :
    Objection r m ⟨1, "Malformed message", some [("payload", "binary frame is not valid UTF-8")]⟩
  | malformed {text : String} {flaw : Json.Flaw} (isText : m.text? = some text)
    (broken : Json.decode Subscription.shape.read text = .error flaw) :
    Objection r m ⟨1, "Malformed message", some [("payload", flaw.message)]⟩
  | invalid {text : String} {request : Subscription.Request} (isText : m.text? = some text)
    (decoded : Json.decode Subscription.shape.read text = .ok request)
    (wrong : request.problems ≠ []) :
    Objection r m ⟨1, "One or more fields are invalid", some request.problems⟩
  | unknown {text : String} {s : Subscription} (isText : m.text? = some text)
    (valid : Subscription.ofText text = .ok s) (gone : r.isLive s.code = false) :
    Objection r m ⟨4, "Room not found", none⟩

/-- The client is told the report and to close, and nothing else becomes different. -/
structure Answered (id : ConnId) (report : ErrorReport) (r r' : Relay) : Prop where
  told : (r'.channel id).queue = [.error report, .close report.message]
  others : ∀ other, other ≠ id → r'.channel other = r.channel other
  rest : r' = { r with outlet := { r.outlet with lines := r'.outlet.lines } }

variable {r : Relay} {m : Message}

/-- A request is refused for its problems, or the subscription it asks for is a valid one. -/
theorem validate_eq_error {request : Subscription.Request} {fault : Fault}
    (refused : request.validate = .error fault) :
    request.problems ≠ [] ∧ fault = .invalid request.problems := by
  unfold Subscription.Request.validate at refused
  split at refused
  next => cases refused
  next noRole =>
    cases refused
    refine ⟨fun none_ => ?_, rfl⟩
    -- Without a role there is a problem, and with one there was no other way to fail.
    cases named : Role.ofName? request.role with
    | some role => exact noRole role named none_
    | none =>
      rw [Subscription.Request.problems, named] at none_
      cases none_

/-- A text that is no subscription is objected to with the fault that it shows. -/
theorem ofText_eq_error {text : String} {fault : Fault}
    (refused : Subscription.ofText text = .error fault) (isText : m.text? = some text) :
    Objection r m fault.report := by
  unfold Subscription.ofText at refused
  cases decoded : Json.decode Subscription.shape.read text with
  | error flaw =>
    rw [decoded] at refused
    cases refused
    exact .malformed isText decoded
  | ok request =>
    rw [decoded] at refused
    obtain ⟨wrong, rfl⟩ := validate_eq_error refused
    exact .invalid isText decoded wrong

/-! ## Reading it -/

/-- A call that reads a text which does not subscribe tells its client why, and is over. -/
theorem read_of_text (id : ConnId) {text : String} (isText : m.text? = some text)
    (refused : ¬ Subscribes r m) :
    ∃ fault, Objection r m fault.report ∧
      (Call.start id).read r (some (.text text))
        = (⟨id, .done⟩, r.perform (.tell id (rejection fault))) := by
  show ∃ fault, _ ∧ (Call.start id).readFirst r (some (.text text)) = _
  unfold Call.readFirst
  dsimp only
  cases asked : Subscription.ofText text with
  | error fault => exact ⟨fault, ofText_eq_error asked isText, rfl⟩
  | ok s =>
    have gone : r.isLive s.code = false := by
      rw [← Bool.not_eq_true]
      exact fun live => refused ⟨text, s, isText, asked, live⟩
    have absent : r.find? s.code = none := Option.not_isSome_iff_eq_none.mp (by
      rw [← Relay.isLive, gone]
      exact Bool.false_ne_true)
    refine ⟨.roomNotFound s.code, .unknown isText asked gone, ?_⟩
    dsimp only
    rw [Call.subscribe, Relay.join_eq, gone, Relay.perform_of_gone absent]
    rfl

/-- Telling a connection something is not counted. -/
theorem tally_tell (o : Outlet) (id : ConnId) (frames : List Frame) :
    (frames.foldl (fun o f => (o.push id f).2) o).tally = o.tally := by
  induction frames generalizing o with
  | nil => rfl
  | cons f rest ih =>
    rw [List.foldl_cons, ih, Outlet.push]
    split <;> rfl

/-- A new connection that holds two frames takes both. -/
theorem answered_of_tell {id : ConnId} {capacity : Nat} (wide : 2 ≤ capacity)
    (fresh : r.channel id = .fresh capacity) (fault : Fault) :
    Answered id fault.report r (r.perform (.tell id (rejection fault))) where
  told := by
    have free : 2 ≤ (Channel.fresh capacity).free := by
      show 2 ≤ max capacity 1
      omega
    rw [Relay.channel_perform r rfl, fresh, Deed.offers, if_pos rfl,
      Channel.offerAll_eq (Channel.sound_fresh capacity), List.take_of_length_le free]
    rfl
  others other differ := by
    rw [Relay.channel_perform r rfl, Deed.offers, if_neg differ]
    rfl
  rest := by
    have uncounted : ∀ o o' : Outlet, o'.tally = o.tally → o' = { o with lines := o'.lines } := by
      rintro o ⟨lines, tally⟩ rfl
      rfl
    exact congrArg (fun outlet => { r with outlet }) (uncounted r.outlet _ (tally_tell ..))

/-! ## Serving it -/

namespace Socket

variable {s : Socket} {id : ConnId}

/-- Something was heard from the client, and this of it first; none of it was read yet. -/
structure Heard (s : Socket) (id : ConnId) (first : Inbound) : Prop where
  call : s.serving.call = .start id
  started : s.serving.started = true
  next : ∃ rest, s.serving.waiting = first :: rest

theorem heard_receive (h : s.Unheard id) (isData : m.isData = true) :
    (s.receive m).Heard id (Message.reading m.text?) := by
  have received := serving_receive_first h isData
  exact ⟨by rw [received]; rfl, by rw [received]; rfl, [], by rw [received]; rfl⟩

/-- Whatever is heard then stands behind it. -/
theorem heard_receiveAll {first : Inbound} (h : s.Heard id first) (later : List Message) :
    (s.receiveAll later).Heard id first := by
  induction later generalizing s with
  | nil => exact h
  | cons m rest ih =>
    obtain ⟨call, started, more, waiting⟩ := s.grown_receive m
    obtain ⟨behind, next⟩ := h.next
    refine ih ⟨call.trans h.call, started.trans h.started, behind ++ more, ?_⟩
    rw [waiting, next]
    rfl

/-! ## Serving -/

theorem steps_of_isDone {s : Serving} (isDone : s.call.isDone = true) (fuel : Nat) (r : Relay) :
    s.steps fuel r = (s, r) := by
  cases fuel with
  | zero => rfl
  | succ fuel =>
    rw [Serving.steps, step?_of_isDone isDone]

/-- A connection that was not heard from waits. -/
theorem serve_of_unheard (h : s.Unheard id) (r : Relay) : s.serve r = (s, r) := by
  have waits : s.serving.step? r = none := by
    rw [h.serving]
    rfl
  rw [serve, Serving.rest, Serving.steps, waits]

/-- The first thing heard is read. If the call is over with that, nothing else is. -/
theorem serve_of_heard {first : Inbound} (h : s.Heard id first) {r r' : Relay}
    (read : (Call.start id).read r (some first) = (⟨id, .done⟩, r')) :
    (s.serve r).2 = r' ∧ (s.serve r).1.serving.isDone = true := by
  obtain ⟨rest, next⟩ := h.next
  have stepped : s.serving.step? r =
      some ({ s.serving with call := ⟨id, .done⟩, waiting := rest }, r') := by
    rw [step?_of_cons h.started r (by rw [h.call]; rfl) next, h.call, read]
  have served : s.serving.rest r =
      ({ s.serving with call := ⟨id, .done⟩, waiting := rest }, r') := by
    rw [Serving.rest, Serving.steps, stepped]
    exact steps_of_isDone rfl _ _
  rw [serve, served]
  exact ⟨rfl, by show (s.serving.started && _) = true; rw [h.started]; rfl⟩

/-- Nobody hears what a client says whose connection is served no longer. -/
theorem receiveAll_of_isDone (isDone : s.serving.isDone = true) (later : List Message) :
    s.receiveAll later = s := by
  induction later with
  | nil => rfl
  | cons m rest ih =>
    have ignored : s.receive m = s := by
      unfold receive
      rw [isDone, Bool.or_true]
      rfl
    show (s.receive m).receiveAll rest = s
    rw [ignored]
    exact ih

theorem serve_of_isDone (isDone : s.serving.isDone = true) (r : Relay) : (s.serve r).2 = r := by
  rw [Serving.isDone, Bool.and_eq_true] at isDone
  rw [serve, Serving.rest, steps_of_isDone isDone.2]

/-- **First messages that are no good.** Let a new connection hold two frames at least, and
let its client, apart from pings and pongs, first say something that does not subscribe to a
live room. As long as there are only pings and pongs, serving the connection does nothing.
Then there is one report of what is wrong, and the client is told it and to close, with
nothing else changed, if and only if the message carries a text; otherwise nothing happens
at all. Either way, nothing that the client says afterwards is acted on, whether it comes
before the first message is read or later, and whatever the relay has become. -/
theorem first_message_answered_iff {id : ConnId} {capacity : Nat} (wide : 2 ≤ capacity)
    (fresh : r.channel id = .fresh capacity) (reading : Bool) {controls : List Message}
    (silent : ∀ m ∈ controls, m.isControl = true) (isData : m.isData = true)
    (refused : ¬ Subscribes r m) (later : List Message) :
    let opened := (Socket.fresh id reading).receiveAll controls
    let served := (opened.receiveAll (m :: later)).serve r
    (∀ q, opened.serve q = (opened, q)) ∧
    (∃ report, Objection r m report ∧ (Answered id report r served.2 ↔ m.text?.isSome)) ∧
    (m.text? = none → served.2 = r) ∧
    ∀ more q, ((served.1.receiveAll more).serve q).2 = q := by
  intro opened served
  have unheard : opened.Unheard id := unheard_receiveAll (unheard_fresh id reading) silent
  have heard : (opened.receiveAll (m :: later)).Heard id (Message.reading m.text?) :=
    heard_receiveAll (heard_receive unheard isData) later
  have ended : ∀ r', (Call.start id).read r (some (Message.reading m.text?)) = (⟨id, .done⟩, r') →
      served.2 = r' ∧ ∀ more q, ((served.1.receiveAll more).serve q).2 = q := by
    intro r' read
    obtain ⟨same, isDone⟩ := serve_of_heard heard read
    refine ⟨same, fun more q => ?_⟩
    rw [receiveAll_of_isDone isDone]
    exact serve_of_isDone isDone q
  refine ⟨serve_of_unheard unheard, ?_⟩
  cases isText : m.text? with
  | some text =>
    rw [isText] at ended
    obtain ⟨fault, objection, read⟩ := read_of_text id isText refused
    obtain ⟨told, unread⟩ := ended _ read
    have answered : Answered id fault.report r served.2 := by
      rw [told]
      exact answered_of_tell wide fresh fault
    exact ⟨⟨_, objection, fun _ => rfl, fun _ => answered⟩, nofun, unread⟩
  | none =>
    rw [isText] at ended
    obtain ⟨same, unread⟩ := ended r rfl
    refine ⟨⟨_, .unreadable isText, fun answered => ?_, nofun⟩, fun _ => same, unread⟩
    -- An answer would stand in the channel, and the channel is as fresh as it was.
    have told := answered.told
    rw [same, fresh] at told
    cases told

/-- A room, and a connection that holds two frames. -/
def lobby : Relay := (((Relay.empty ⟨4, 2⟩ fun _ => "den").create "host").2.connect 2).2

/-- A subscription of a viewer. -/
def asking (code : String) : Message :=
  .text ("\x7b\"roomCode\":\"" ++ code ++ "\",\"role\":\"viewer\"\x7d")

/-- The client pings, asks for a room that is not there, and then for one that is. -/
theorem first_message_answered_iff_unknown :
    let opened := (fresh ⟨0⟩ true).receiveAll [.ping [1]]
    let served := (opened.receiveAll [asking "room", asking "den"]).serve lobby
    lobby.isLive "den" = true ∧ ¬ Subscribes lobby (asking "room") ∧
    opened.serve lobby = (opened, lobby) ∧
    (∃ report, Objection lobby (asking "room") report ∧ Answered ⟨0⟩ report lobby served.2) ∧
    (served.2.find? "den").bind (fun s => (s.slot .viewer).connection) = none := by
  intro opened served
  have live : lobby.isLive "den" = true := by decide +kernel
  have refused : ¬ Subscribes lobby (asking "room") := by
    rintro ⟨text, s, isText, asked, live⟩
    cases isText
    have read : (Subscription.ofText "\x7b\"roomCode\":\"room\",\"role\":\"viewer\"\x7d").toOption
        = some ⟨"room", .viewer⟩ := by decide +kernel
    have same : some s = some ⟨"room", .viewer⟩ := (congrArg Except.toOption asked).symm.trans read
    cases same
    have gone : lobby.isLive "room" = false := by decide +kernel
    rw [gone] at live
    cases live
  have fresh : lobby.channel ⟨0⟩ = .fresh 2 := rfl
  have silent : ∀ m ∈ [Message.ping [1]], m.isControl = true := by decide
  obtain ⟨quiet, ⟨report, objection, answered⟩, -⟩ :=
    first_message_answered_iff (Nat.le_refl 2) fresh true silent rfl refused [asking "den"]
  exact ⟨live, refused, quiet lobby, ⟨report, objection, answered.mpr rfl⟩, by decide +kernel⟩

/-- Bytes that are no text are no subscription, and nobody says so: no report that would do
is given, and none at all. -/
theorem unreadable_unanswered :
    let served := ((fresh ⟨0⟩ true).receive (.binary [0xff, 0xfe])).serve lobby
    lobby.channel ⟨0⟩ = .fresh 2 ∧ ¬ Subscribes lobby (.binary [0xff, 0xfe]) ∧
    Objection lobby (.binary [0xff, 0xfe])
      (⟨1, "Malformed message", some [("payload", "binary frame is not valid UTF-8")]⟩) ∧
    served.1.serving.isDone = true ∧ (served.2.channel ⟨0⟩).accepted.length = 0 ∧
    ∀ report, ¬ Answered ⟨0⟩ report lobby served.2 := by
  intro served
  have noText : (Message.binary [0xff, 0xfe]).text? = none := by decide +kernel
  have silent : (served.2.channel ⟨0⟩).queue.length = 0 := by decide +kernel
  refine ⟨rfl, ?_, .unreadable noText, by decide +kernel, by decide +kernel, ?_⟩
  · rintro ⟨text, s, isText, -⟩
    rw [noText] at isText
    cases isText
  · intro report answered
    rw [answered.told] at silent
    cases silent

end Socket

end Rendezvous.WebSocket
