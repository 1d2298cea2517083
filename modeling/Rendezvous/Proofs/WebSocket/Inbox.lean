import Rendezvous.WebSocket.Socket

/-!
# What arrives

A message from a client shows in what waits to be read of its connection, or it keeps the
connection in order and shows nowhere there (`hears`, `received_receive`). Nothing
else of the socket that matters to the relay becomes different.
-/

namespace Rendezvous.WebSocket

open Signaling (Serving Inbound)

/-! ## Messages -/

namespace Message

/-- The text of a message that carries one. -/
def text? : Message → Option String
  | .text s => some s
  | .binary bytes => Http.utf8Text? bytes
  | .ping _ | .pong _ | .close _ => none

/-- The message keeps the connection in order, and says nothing. -/
def isControl : Message → Bool
  | .ping _ | .pong _ => true
  | .text _ | .binary _ | .close _ => false

/-- The message is one of the client's own. -/
def isData : Message → Bool
  | .text _ | .binary _ => true
  | .ping _ | .pong _ | .close _ => false

/-- What is read from bytes that are no text. -/
def unreadable : Fault := .malformed "binary frame is not valid UTF-8"

/-- What is read of a text, if it is one. -/
def reading : Option String → Inbound
  | some s => .text s
  | none => .failure unreadable

/-- Data is read as the text in it, or as a failure to read one. -/
theorem inbound?_of_isData {m : Message} (isData : m.isData = true) :
    m.inbound? = some (reading m.text?) := by
  cases m with
  | text s => rfl
  | binary bytes =>
    rw [inbound?, text?]
    cases Http.utf8Text? bytes <;> rfl
  | ping | pong | close => cases isData

end Message

/-- What waits to be read once a message has arrived. -/
def hears (s : Serving) : Message → Serving
  | .ping _ | .pong _ => s
  | .close _ => s.hangUp
  | m => s.offer (Message.reading m.text?)

theorem hears_of_isControl {m : Message} (isControl : m.isControl = true) (s : Serving) :
    hears s m = s := by
  cases m with
  | ping | pong => rfl
  | text | binary | close => cases isControl

theorem hears_of_isData {m : Message} (isData : m.isData = true) (s : Serving) :
    hears s m = s.offer (Message.reading m.text?) := by
  cases m with
  | text | binary => rfl
  | ping | pong | close => cases isData

/-- More has arrived for a call, which has not moved. -/
structure Grown (s s' : Serving) : Prop where
  call : s'.call = s.call
  started : s'.started = s.started
  more : ∃ more, s'.waiting = s.waiting ++ more

theorem Grown.refl (s : Serving) : Grown s s := ⟨rfl, rfl, [], (List.append_nil _).symm⟩

/-- To hear a message makes what waits longer, and changes nothing that waits. -/
theorem grown_hears (s : Serving) (m : Message) : Grown s (hears s m) := by
  have offered : ∀ x, Grown s (s.offer x) := by
    intro x
    unfold Serving.offer
    split
    · exact ⟨rfl, rfl, [x], rfl⟩
    · exact .refl s
  cases m with
  | ping | pong => exact .refl s
  | close => exact ⟨rfl, rfl, [], (List.append_nil _).symm⟩
  | text | binary => exact offered _

/-! ## Reading -/

section
open Signaling (Call)

theorem isDone_of_isReading {c : Call} (reading : c.isReading = true) : c.isDone = false := by
  unfold Call.isReading at reading
  rw [Call.isDone, beq_eq_false_iff_ne]
  intro done
  rw [done] at reading
  cases reading

theorem step?_of_isDone {s : Serving} (finished : s.call.isDone = true) (r : Relay) :
    s.step? r = none := by
  rw [Serving.step?, finished, Bool.or_true]
  rfl

variable {s : Serving} (started : s.started = true) (r : Relay)
include started

/-- The first thing that waits is read. -/
theorem step?_of_cons (reading : s.call.isReading = true) {x : Inbound} {rest : List Inbound}
    (next : s.waiting = x :: rest) :
    s.step? r = some ({ s with call := (s.call.read r (some x)).1, waiting := rest },
      (s.call.read r (some x)).2) := by
  rw [Serving.step?, started, isDone_of_isReading reading, reading, next]
  rfl

/-- Where nothing waits, the end of the stream is read, or the call waits. -/
theorem step?_of_nil (reading : s.call.isReading = true) (next : s.waiting = []) :
    s.step? r = if s.ended then
      some ({ s with call := (s.call.read r none).1 }, (s.call.read r none).2) else none := by
  rw [Serving.step?, started, isDone_of_isReading reading, reading, next]
  rfl

end

namespace Socket

/-- Nobody hears what the client says. -/
def isDeaf (s : Socket) : Bool := s.isOver || s.link != .up || s.serving.isDone

/-- What a message that arrives makes of a socket: it is heard, if somebody listens, and may
be answered with a pong. -/
structure Received (s : Socket) (m : Message) (s' : Socket) : Prop where
  serving : s'.serving = if s.isDeaf then s.serving else hears s.serving m
  isOver : s'.isOver = s.isOver
  link : s'.link = s.link
  writer : s'.writer = s.writer
  reading : s'.reading = s.reading
  seen : s'.seen = s.seen
  transit : ∃ pongs : List (List UInt8), s'.transit = s.transit ++ pongs.map .pong

/-- And this is what receiving a message makes of it. -/
theorem received_receive (s : Socket) (m : Message) : Received s m (s.receive m) := by
  have quiet : ∃ pongs : List (List UInt8), s.transit = s.transit ++ pongs.map .pong :=
    ⟨[], (List.append_nil _).symm⟩
  unfold receive
  cases deaf : s.isDeaf with
  | true =>
    have ignored := deaf
    rw [isDeaf] at ignored
    rw [ignored]
    exact ⟨by rw [deaf]; rfl, rfl, rfl, rfl, rfl, rfl, quiet⟩
  | false =>
    have heard : ∀ m, hears s.serving m = if s.isDeaf then s.serving else hears s.serving m := by
      intro m
      rw [deaf]
      rfl
    rw [isDeaf] at deaf
    rw [deaf]
    cases m with
    | ping bytes =>
      show Received s _ (if s.closeBegun || s.clientClosed then s else _)
      cases s.closeBegun || s.clientClosed with
      | true => exact ⟨heard (.ping bytes), rfl, rfl, rfl, rfl, rfl, quiet⟩
      | false => exact ⟨heard (.ping bytes), rfl, rfl, rfl, rfl, rfl, [bytes], rfl⟩
    | pong bytes => exact ⟨heard (.pong bytes), rfl, rfl, rfl, rfl, rfl, quiet⟩
    | close frame => exact ⟨heard (.close frame), rfl, rfl, rfl, rfl, rfl, quiet⟩
    | text text => exact ⟨heard (.text text), rfl, rfl, rfl, rfl, rfl, quiet⟩
    | binary bytes =>
      dsimp only [Bool.false_eq_true, if_false]
      rw [Message.inbound?_of_isData (m := .binary bytes) rfl]
      exact ⟨heard (.binary bytes), rfl, rfl, rfl, rfl, rfl, quiet⟩

/-- What is served has at most got more to read. -/
theorem grown_receive (s : Socket) (m : Message) : Grown s.serving (s.receive m).serving := by
  rw [(s.received_receive m).serving]
  split
  · exact .refl _
  · exact grown_hears ..

theorem connection_receive (s : Socket) (m : Message) : (s.receive m).connection = s.connection :=
  congrArg Signaling.Call.connection (s.grown_receive m).call

/-- Messages arrive, one after the other. -/
def receiveAll (s : Socket) (messages : List Message) : Socket := messages.foldl receive s

/-! ## The beginning -/

/-- Nothing of its own was heard from the client yet. -/
structure Unheard (s : Socket) (id : ConnId) : Prop where
  serving : s.serving = .start id [] false
  isOver : s.isOver = false
  link : s.link = .up

theorem unheard_fresh (id : ConnId) (reading : Bool) : (fresh id reading).Unheard id :=
  ⟨rfl, rfl, rfl⟩

variable {s : Socket} {id : ConnId}

/-- Control messages leave it so. -/
theorem unheard_receiveAll (h : s.Unheard id) {controls : List Message}
    (silent : ∀ m ∈ controls, m.isControl = true) : (s.receiveAll controls).Unheard id := by
  induction controls generalizing s with
  | nil => exact h
  | cons m rest ih =>
    have received := s.received_receive m
    refine ih ⟨?_, ?_, ?_⟩ fun m mem => silent m (List.mem_cons_of_mem _ mem)
    · rw [received.serving, hears_of_isControl (silent m List.mem_cons_self), ite_self, h.serving]
    · rw [received.isOver, h.isOver]
    · rw [received.link, h.link]

/-- The first thing that a client says waits to be read. -/
theorem serving_receive_first (h : s.Unheard id) {m : Message} (isData : m.isData = true) :
    (s.receive m).serving = .start id [Message.reading m.text?] false := by
  have listens : s.isDeaf = false := by
    rw [isDeaf, h.isOver, h.link, h.serving]
    rfl
  rw [(s.received_receive m).serving, listens, if_neg Bool.false_ne_true, h.serving,
    hears_of_isData isData]
  rfl

end Socket

end Rendezvous.WebSocket
