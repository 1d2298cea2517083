import Mathlib.Data.List.ReduceOption
import Rendezvous.Proofs.Signaling.Reading
import Rendezvous.Proofs.WebSocket.Inbox

/-!
# What a client says

A call that relays reads envelopes, and stops at the first thing that is none: a close,
bytes that are no text, a text that is no envelope. So of all messages that a client sends,
its `script` is what matters: the envelopes up to there. `outlook` is the script of what
still waits to be read. A message that arrives goes to its end (`outlook_receive`), and a
step of the call takes its head off (`next_of_relaying`); nothing else of what waits is ever
looked at.
-/

namespace Rendezvous.WebSocket

open Signaling (Call Serving Inbound envelope?)

/-! ## Up to the end -/

/-- Of things that are read one after the other, all up to the first that is no envelope. -/
def untilEnd : List (Option Envelope) → List (Option Envelope)
  | [] => []
  | some e :: rest => some e :: untilEnd rest
  | none :: _ => [none]

/-- Something among them is no envelope. -/
def ends (things : List (Option Envelope)) : Bool := things.any Option.isNone

/-- What stands behind an end is left out. -/
theorem untilEnd_append (before after : List (Option Envelope)) :
    untilEnd (before ++ after) =
      if ends before then untilEnd before else before ++ untilEnd after := by
  induction before with
  | nil => rfl
  | cons thing rest ih =>
    cases thing with
    | none => rfl
    | some e =>
      have later : ends (some e :: rest) = ends rest := rfl
      rw [List.cons_append, untilEnd, ih, later]
      split <;> rfl

theorem ends_untilEnd (things : List (Option Envelope)) : ends (untilEnd things) = ends things := by
  induction things with
  | nil => rfl
  | cons thing rest ih =>
    cases thing with
    | none => rfl
    | some e => exact ih

theorem untilEnd_of_not_ends {things : List (Option Envelope)} (h : ends things = false) :
    untilEnd things = things := by
  have whole := untilEnd_append things []
  rw [List.append_nil, h, if_neg Bool.false_ne_true] at whole
  exact whole.trans (List.append_nil things)

/-- Once it is left out there is nothing more to leave out. -/
theorem untilEnd_idem (things : List (Option Envelope)) :
    untilEnd (untilEnd things) = untilEnd things := by
  induction things with
  | nil => rfl
  | cons thing rest ih =>
    cases thing with
    | none => rfl
    | some e => rw [untilEnd, untilEnd, ih]

/-- What follows matters only behind what was kept. -/
theorem untilEnd_untilEnd_append (before after : List (Option Envelope)) :
    untilEnd (untilEnd before ++ after) = untilEnd (before ++ after) := by
  rw [untilEnd_append, untilEnd_append, ends_untilEnd, untilEnd_idem]
  split
  next => rfl
  next endless =>
    rw [Bool.not_eq_true] at endless
    rw [untilEnd_of_not_ends endless]

/-- Envelopes are kept. -/
theorem untilEnd_map_append (es : List Envelope) (after : List (Option Envelope)) :
    untilEnd (es.map some ++ after) = es.map some ++ untilEnd after := by
  induction es with
  | nil => rfl
  | cons e rest ih => exact congrArg (some e :: ·) ih

theorem untilEnd_append_of_ends {before : List (Option Envelope)} (h : ends before = true)
    (after : List (Option Envelope)) : untilEnd (before ++ after) = untilEnd before := by
  rw [untilEnd_append, if_pos h]

/-! ## Messages -/

/-- What a message means to a call that relays, if it means anything: an envelope, or the end
of its reading. -/
def Message.gist? : Message → Option (Option Envelope)
  | .ping _ | .pong _ => none
  | .close _ => some none
  | m => some (m.text?.bind fun text => (Envelope.ofText text).toOption)

/-- What is made of messages: their envelopes, up to the first that ends it. -/
def script (messages : List Message) : List (Option Envelope) :=
  untilEnd (messages.filterMap Message.gist?)

/-- The envelopes of messages, up to the first that is a close, no text, or no envelope. -/
def heard (messages : List Message) : List Envelope := (script messages).reduceOption

/-- A message adds its gist to the script, unless the script has ended. -/
theorem script_snoc (messages : List Message) (m : Message) :
    script (messages ++ [m]) = untilEnd (script messages ++ m.gist?.toList) := by
  rw [script, script, untilEnd_untilEnd_append, List.filterMap_append]
  cases meant : m.gist? with
  | none => rw [List.filterMap_cons_none meant]; rfl
  | some gist => rw [List.filterMap_cons_some meant]; rfl

/-- The end of a stream says as much as a message that is no envelope. -/
theorem envelope?_reading (text : Option String) :
    envelope? (some (Message.reading text)) = text.bind fun s => (Envelope.ofText s).toOption := by
  cases text <;> rfl

/-! ## What waits to be read -/

/-- What waits to be read, and the end of the stream. -/
def things (waiting : List Inbound) (ended : Bool) : List (Option Envelope) :=
  waiting.map (fun x => envelope? (some x)) ++ if ended then [none] else []

/-- What a call that relays will make of what waits. -/
def awaits (s : Serving) : List (Option Envelope) := untilEnd (things s.waiting s.ended)

/-- What a call will make of what waits once it relays. One that reads no longer has come to
its end. -/
def outlook (s : Serving) : List (Option Envelope) :=
  match s.call.phase with
  | .awaiting => untilEnd (things s.waiting.tail s.ended)
  | .relaying .. => awaits s
  | .leaving .. | .closing | .done => [none]

theorem ends_things_of_ended (waiting : List Inbound) : ends (things waiting true) = true := by
  rw [ends, things, List.any_append]
  exact Bool.or_true _

/-- The outlook of a call stops at an end. -/
theorem untilEnd_outlook (s : Serving) : untilEnd (outlook s) = outlook s := by
  unfold outlook
  cases s.call.phase with
  | awaiting | relaying => exact untilEnd_idem _
  | leaving | closing | done => rfl

/-- A message that is heard stands behind all that waits. -/
theorem untilEnd_things_hears {s : Serving} (going : s.isDone = false) (m : Message) {n : Nat}
    (behind : n ≤ s.waiting.length) :
    untilEnd (things ((hears s m).waiting.drop n) (hears s m).ended)
      = untilEnd (untilEnd (things (s.waiting.drop n) s.ended) ++ m.gist?.toList) := by
  rw [untilEnd_untilEnd_append]
  cases ended : s.ended with
  | true =>
    have still : (hears s m).waiting = s.waiting ∧ (hears s m).ended = true := by
      -- After the end nothing is taken in any more.
      have shut : ∀ x, s.offer x = s := by
        intro x
        rw [Serving.offer, Serving.isOpen, ended]
        rfl
      cases m with
      | text | binary =>
        rw [hears_of_isData rfl, shut]
        exact ⟨rfl, ended⟩
      | ping | pong => exact ⟨rfl, ended⟩
      | close => exact ⟨rfl, rfl⟩
    rw [still.1, still.2, untilEnd_append_of_ends (ends_things_of_ended _)]
  | false =>
    have said : ∀ text, hears s m = s.offer (Message.reading text) →
        m.gist? = some (text.bind fun s => (Envelope.ofText s).toOption) →
        untilEnd (things ((hears s m).waiting.drop n) (hears s m).ended)
          = untilEnd (things (s.waiting.drop n) false ++ m.gist?.toList) := by
      intro text offered meant
      have open_ : s.isOpen = true := by
        rw [Serving.isOpen, ended, going]
        rfl
      rw [offered, meant, Serving.offer, if_pos open_, ended, ← envelope?_reading]
      show untilEnd (things ((s.waiting ++ _).drop n) false) = _
      rw [List.drop_append_of_le_length behind, things, things, List.map_append]
      simp only [Bool.false_eq_true, if_false, List.append_nil]
      rfl
    cases m with
    | text text => exact said (some text) rfl rfl
    | binary bytes => exact said (Http.utf8Text? bytes) rfl rfl
    | ping | pong =>
      show untilEnd (things (s.waiting.drop n) s.ended) = untilEnd (things _ false ++ [])
      rw [ended, List.append_nil]
    | close frame =>
      show untilEnd (things (s.waiting.drop n) true) = untilEnd (things _ false ++ [none])
      simp [things]

/-- A message that is heard goes to the end of the outlook. -/
theorem outlook_hears {s : Serving} (going : s.isDone = false)
    (first : s.call.phase = .awaiting → s.waiting ≠ []) (m : Message) :
    outlook (hears s m) = untilEnd (outlook s ++ m.gist?.toList) := by
  rw [outlook, outlook, (grown_hears s m).call]
  cases phase : s.call.phase with
  | awaiting =>
    have one : 1 ≤ s.waiting.length := List.length_pos_iff.mpr (first phase)
    have behind := untilEnd_things_hears going m one
    rw [List.drop_one, List.drop_one] at behind
    exact behind
  | relaying code role => exact untilEnd_things_hears going m (Nat.zero_le _)
  | leaving | closing | done => rfl

/-- What a socket receives is added to the outlook of its call. -/
theorem outlook_receive {s : Socket} (isOver : s.isOver = false) (up : s.link = .up)
    (first : s.serving.call.phase = .awaiting → s.serving.waiting ≠ []) (m : Message) :
    outlook (s.receive m).serving = untilEnd (outlook s.serving ++ m.gist?.toList) := by
  have listens : s.isDeaf = s.serving.isDone := by
    rw [Socket.isDeaf, isOver, up]
    rfl
  rw [(s.received_receive m).serving, listens]
  cases going : s.serving.isDone with
  | false => exact outlook_hears going first m
  | true =>
    have finished : s.serving.call.phase = .done := by
      rw [Serving.isDone, Bool.and_eq_true] at going
      exact eq_of_beq going.2
    rw [if_pos rfl, outlook, finished]
    rfl

/-- A message that means nothing, or comes too late. -/
theorem outlook_of_idle {s : Socket} {m : Message} (present : s.isOver = false)
    (up : s.link = .up) (first : s.serving.call.phase = .awaiting → s.serving.waiting ≠ [])
    (idle : ends (outlook s.serving) = true ∨ m.gist? = none) :
    outlook (s.receive m).serving = outlook s.serving := by
  rw [outlook_receive present up first]
  rcases idle with late | silent
  · rw [untilEnd_append_of_ends late, untilEnd_outlook]
  · rw [silent, Option.toList_none, List.append_nil, untilEnd_outlook]

/-! ## Steps -/

/-- A step makes this of a call and the relay, and this is what the call will make of what
waits then, if it still reads. -/
def Moves (s : Serving) (r : Relay) (result : Call × Relay) (left : List (Option Envelope)) :
    Prop :=
  ∃ s', s.step? r = some (s', result.2) ∧ s'.call = result.1 ∧ s'.started = true ∧
    s'.call.phase ≠ .awaiting ∧ outlook s' = if s'.call.isReading then left else [none]

/-- A call that has joined looks ahead to what awaits it, or to its end. -/
theorem outlook_of_joined {s : Serving} {left : List (Option Envelope)}
    (joined : s.call.phase ≠ .awaiting) (awaited : awaits s = left) :
    outlook s = if s.call.isReading then left else [none] := by
  unfold outlook Call.isReading
  cases phase : s.call.phase with
  | awaiting => exact absurd phase joined
  | relaying code role => exact awaited
  | leaving | closing | done => rfl

/-- After its first message, a call does not wait for it again. -/
theorem joined_readFirst (c : Call) (r : Relay) (next : Option Inbound) :
    (c.readFirst r next).1.phase ≠ .awaiting := by
  unfold Call.readFirst
  split
  next text =>
    split
    next s asked =>
      unfold Call.subscribe
      split <;> exact Signaling.Phase.noConfusion
    next => exact Signaling.Phase.noConfusion
  next => exact Signaling.Phase.noConfusion
  next => exact Signaling.Phase.noConfusion

section
variable {s : Serving} (started : s.started = true) {r : Relay}
include started

/-- The first message is read, and behind it stands what the call may relay. -/
theorem moves_first {x : Inbound} {rest : List Inbound} (awaiting : s.call.phase = .awaiting)
    (next : s.waiting = x :: rest) : Moves s r (s.call.read r (some x)) (outlook s) := by
  have reading : s.call.isReading = true := by rw [Call.isReading, awaiting]
  have first : s.call.read r (some x) = s.call.readFirst r (some x) := by rw [Call.read, awaiting]
  have joined := joined_readFirst s.call r (some x)
  rw [← first] at joined
  refine ⟨_, step?_of_cons started r reading next, rfl, started, joined, ?_⟩
  refine outlook_of_joined joined ?_
  rw [outlook, awaiting, next]
  rfl

end

/-- What comes next of a call that relays: it waits, it relays an envelope, or it stops. -/
inductive Next (s : Serving) (r : Relay) (code : String) (role : Role) : Prop
  | waits (nothing : outlook s = []) (still : s.step? r = none)
  | relays {e : Envelope} {left : List (Option Envelope)} (next : outlook s = some e :: left)
    (moves : Moves s r (s.call.forward r code role e) left)
  | stops (next : outlook s = [none]) (moves : Moves s r (s.call.stop r code role) [])

/-- **What a call that relays does next** is told by the head of its outlook. -/
theorem next_of_relaying {s : Serving} (started : s.started = true) (r : Relay) {code : String}
    {role : Role} (relaying : s.call.phase = .relaying code role) : Next s r code role := by
  have reading : s.call.isReading = true := by rw [Call.isReading, relaying]
  have outlook_eq : outlook s = untilEnd (things s.waiting s.ended) := by
    rw [outlook, relaying, awaits]
  have stopped : (s.call.stop r code role).1.phase ≠ .awaiting := Signaling.Phase.noConfusion
  cases waiting : s.waiting with
  | nil =>
    have stepped := step?_of_nil started r reading waiting
    rw [waiting] at outlook_eq
    cases ended : s.ended with
    | false =>
      rw [ended] at outlook_eq stepped
      exact .waits outlook_eq stepped
    | true =>
      rw [ended] at outlook_eq
      rw [ended, Call.read_of_none relaying (Or.inl rfl)] at stepped
      exact .stops outlook_eq ⟨_, stepped, rfl, started, stopped, rfl⟩
  | cons x rest =>
    have stepped := step?_of_cons started r reading waiting
    rw [waiting, things, List.map_cons, List.cons_append] at outlook_eq
    cases thing : envelope? (some x) with
    | none =>
      rw [thing] at outlook_eq
      rw [Call.read_of_none relaying (Or.inl thing)] at stepped
      exact .stops outlook_eq ⟨_, stepped, rfl, started, stopped, rfl⟩
    | some e =>
      rw [thing] at outlook_eq
      obtain ⟨text, isText, decoded⟩ := Signaling.envelope?_eq_some thing
      have read : s.call.read r (some x) = s.call.forward r code role e := by
        rw [isText, Call.read, relaying]
        show s.call.readNext r code role (some (.text text)) = _
        rw [Call.readNext, decoded]
      have joined : (s.call.forward r code role e).1.phase ≠ .awaiting := by
        unfold Call.forward
        split
        · exact Signaling.Phase.noConfusion
        · rw [relaying]
          exact Signaling.Phase.noConfusion
      rw [read] at stepped
      exact .relays outlook_eq ⟨_, stepped, rfl, started, joined, outlook_of_joined joined rfl⟩

/-- A call that has stopped reading looks ahead to nothing but its end. -/
theorem outlook_of_stopped {s : Serving} (stopped : s.call.isReading = false) :
    outlook s = [none] := by
  unfold Call.isReading at stopped
  unfold outlook
  cases phase : s.call.phase with
  | awaiting | relaying code role => rw [phase] at stopped; cases stopped
  | leaving | closing | done => rfl

/-- A call that reads no longer comes closer to its end. -/
theorem moves_finish {s : Serving} (started : s.started = true) (r : Relay)
    (stopped : s.call.isReading = false) (going : s.call.isDone = false) :
    Moves s r (s.call.finish r) [] := by
  have still := Call.isReading_finish stopped r
  have joined : (s.call.finish r).1.phase ≠ .awaiting := by
    intro awaiting
    rw [Call.isReading, awaiting] at still
    cases still
  refine ⟨{ s with call := (s.call.finish r).1 }, ?_, rfl, started, joined, ?_⟩
  · rw [Serving.step?, started, going, stopped]
    rfl
  · rw [if_neg (by rw [still]; exact Bool.false_ne_true)]
    exact outlook_of_stopped still

/-! ## Streams that come to the same -/

/-- Two streams of one call come to the same: the call has come as far on both, and will make
the same of what waits. -/
structure Same (s s' : Serving) : Prop where
  call : s'.call = s.call
  started : s.started = true
  started' : s'.started = true
  first : s.call.phase = .awaiting →
    ∃ x rest rest', s.waiting = x :: rest ∧ s'.waiting = x :: rest'
  ahead : outlook s' = outlook s

theorem Same.refl {s : Serving} (started : s.started = true)
    (first : s.call.phase = .awaiting → s.waiting ≠ []) : Same s s where
  call := rfl
  started := started
  started' := started
  first awaiting := by
    obtain ⟨x, rest, waiting⟩ := List.exists_cons_of_ne_nil (first awaiting)
    exact ⟨x, rest, rest, waiting, waiting⟩
  ahead := rfl

/-- A first thing waits on both, as long as it has not been read. -/
theorem Same.first_ne {s s' : Serving} (h : Same s s') :
    (s.call.phase = .awaiting → s.waiting ≠ []) ∧
      (s'.call.phase = .awaiting → s'.waiting ≠ []) := by
  rw [h.call]
  refine ⟨fun awaiting => ?_, fun awaiting => ?_⟩ <;>
    obtain ⟨x, rest, rest', waiting, waiting'⟩ := h.first awaiting
  · rw [waiting]
    exact List.cons_ne_nil _ _
  · rw [waiting']
    exact List.cons_ne_nil _ _

/-- Two streams take a step with the same effect, or none. What ends goes on to end. -/
def StepsSame (s s' : Serving) (r : Relay) : Prop :=
  (s.step? r = none ∧ s'.step? r = none) ∨
    ∃ t t' r', s.step? r = some (t, r') ∧ s'.step? r = some (t', r') ∧ Same t t' ∧
      (ends (outlook s) = true → ends (outlook t) = true)

/-- Two streams whose calls move alike, and leave the same to do, come to the same again. -/
theorem Moves.same {s s' : Serving} {r : Relay} {result : Call × Relay}
    {left : List (Option Envelope)} (moves : Moves s r result left)
    (moves' : Moves s' r result left)
    (lasts : ends (outlook s) = true → result.1.isReading = true → ends left = true) :
    StepsSame s s' r := by
  obtain ⟨t, stepped, call, started, joined, left_⟩ := moves
  obtain ⟨t', stepped', call', started', -, left_'⟩ := moves'
  have sameCall : t'.call = t.call := call'.trans call.symm
  refine Or.inr ⟨t, t', result.2, stepped, stepped', ⟨sameCall, started, started',
    fun awaiting => absurd awaiting joined, ?_⟩, fun ended => ?_⟩
  · rw [left_, left_', sameCall]
  · rw [left_]
    split
    next reading => exact lasts ended (call ▸ reading)
    next => rfl

/-- **Streams that come to the same go on to do so.** -/
theorem Same.step {s s' : Serving} (h : Same s s') (r : Relay) : StepsSame s s' r := by
  have phase' : s'.call.phase = s.call.phase := congrArg Call.phase h.call
  have finishes : s.call.isReading = false → StepsSame s s' r := by
    intro stopped
    cases going : s.call.isDone with
    | true =>
      exact Or.inl ⟨step?_of_isDone going r, step?_of_isDone (h.call.symm ▸ going) r⟩
    | false =>
      have moves' := moves_finish h.started' r (h.call.symm ▸ stopped) (h.call.symm ▸ going)
      rw [h.call] at moves'
      refine (moves_finish h.started r stopped going).same moves' fun _ reading => ?_
      rw [Call.isReading_finish stopped r] at reading
      cases reading
  cases phase : s.call.phase with
  | awaiting =>
    obtain ⟨x, rest, rest', waiting, waiting'⟩ := h.first phase
    have moves' := moves_first h.started' (r := r) (phase'.trans phase) waiting'
    rw [h.call, h.ahead] at moves'
    exact (moves_first h.started phase waiting).same moves' fun ended _ => ended
  | relaying code role =>
    have next := next_of_relaying h.started r phase
    have next' := next_of_relaying h.started' r (phase'.trans phase)
    -- Both have the same in view, so they wait, relay or stop together.
    have same := h.ahead
    cases next with
    | waits nothing still =>
      cases next' with
      | waits nothing' still' => exact Or.inl ⟨still, still'⟩
      | relays next' moves' => rw [nothing, next'] at same; cases same
      | stops next' moves' => rw [nothing, next'] at same; cases same
    | relays next moves =>
      cases next' with
      | waits nothing' still' => rw [next, nothing'] at same; cases same
      | relays next' moves' =>
        rw [next, next'] at same
        cases same
        rw [h.call] at moves'
        refine moves.same moves' fun ended _ => ?_
        rw [next] at ended
        exact ended
      | stops next' moves' => rw [next, next'] at same; cases same
    | stops next moves =>
      cases next' with
      | waits nothing' still' => rw [next, nothing'] at same; cases same
      | relays next' moves' => rw [next, next'] at same; cases same
      | stops next' moves' =>
        rw [h.call] at moves'
        exact moves.same moves' fun _ reading => by cases reading
  | leaving | closing | done => exact finishes (by rw [Call.isReading, phase])

/-- What arrives on two streams may differ where it means nothing, or comes too late. -/
theorem Same.grows {s s' t t' : Serving} (h : Same s s') (grown : Grown s t) (grown' : Grown s' t')
    (same : outlook t' = outlook t) : Same t t' where
  call := by rw [grown'.call, grown.call, h.call]
  started := grown.started.trans h.started
  started' := grown'.started.trans h.started'
  first awaiting := by
    rw [grown.call] at awaiting
    obtain ⟨x, rest, rest', waiting, waiting'⟩ := h.first awaiting
    obtain ⟨more, behind⟩ := grown.more
    obtain ⟨more', behind'⟩ := grown'.more
    exact ⟨x, rest ++ more, rest' ++ more', by rw [behind, waiting]; rfl,
      by rw [behind', waiting']; rfl⟩
  ahead := same

/-! ## Coming to rest -/

/-- How many steps a call can still take, at most. -/
def rank (s : Serving) : Nat :=
  match s.call.phase with
  | .awaiting | .relaying .. => s.waiting.length + 3
  | .leaving .. => 2
  | .closing => 1
  | .done => 0

theorem rank_le (s : Serving) : rank s ≤ s.waiting.length + 3 := by
  unfold rank
  cases s.call.phase <;> dsimp only <;> omega

theorem rank_of_stopped {s : Serving} (stopped : s.call.isReading = false) : rank s ≤ 2 := by
  unfold Call.isReading at stopped
  unfold rank
  cases phase : s.call.phase with
  | awaiting | relaying code role => rw [phase] at stopped; cases stopped
  | leaving | closing | done => dsimp only; omega

/-- A call without steps left is done. -/
theorem isDone_of_rank {s : Serving} (least : rank s ≤ 0) : s.call.isDone = true := by
  unfold rank at least
  rw [Call.isDone, beq_iff_eq]
  cases phase : s.call.phase with
  | done => rfl
  | awaiting | relaying | leaving | closing =>
    rw [phase] at least
    exact absurd least (Nat.not_succ_le_zero _)

/-- Each thing that waits is one step, and three more lead to the end. -/
theorem rank_of_reading {s : Serving} (reading : s.call.isReading = true) :
    rank s = s.waiting.length + 3 := by
  unfold Call.isReading at reading
  unfold rank
  cases phase : s.call.phase with
  | awaiting | relaying code role => rfl
  | leaving | closing | done => rw [phase] at reading; cases reading

/-- Nothing is read behind the end of a stream. -/
theorem isReading_of_end {c : Call} (reading : c.isReading = true) (r : Relay) :
    (c.read r none).1.isReading = false := by
  unfold Call.isReading at reading
  cases phase : c.phase with
  | awaiting => rw [Call.read, phase]; rfl
  | relaying code role => rw [Call.read_of_none phase (Or.inl rfl)]; rfl
  | leaving | closing | done => rw [phase] at reading; cases reading

/-- Only what has been started takes steps, and it stays so. -/
theorem started_of_step {s s' : Serving} {r r' : Relay} (stepped : s.step? r = some (s', r')) :
    s.started = true ∧ s'.started = true := by
  cases started : s.started with
  | false =>
    rw [Serving.step?, started] at stepped
    cases stepped
  | true =>
    refine ⟨rfl, ?_⟩
    rw [← started]
    unfold Serving.step? at stepped
    split at stepped
    next => cases stepped
    next =>
      split at stepped
      next =>
        split at stepped
        next => cases stepped; rfl
        next =>
          split at stepped
          next => cases stepped; rfl
          next => cases stepped
      next => cases stepped; rfl

/-- Each step brings a call closer to its end. -/
theorem rank_step {s s' : Serving} {r r' : Relay} (stepped : s.step? r = some (s', r')) :
    rank s' < rank s := by
  obtain ⟨started, -⟩ := started_of_step stepped
  -- Reading takes a message off the list or ends the call. Finishing brings it one phase further.
  cases reading : s.call.isReading with
  | true =>
    rw [rank_of_reading reading]
    cases waiting : s.waiting with
    | cons x rest =>
      rw [step?_of_cons started r reading waiting] at stepped
      cases stepped
      exact Nat.lt_of_le_of_lt (rank_le _) (by simp)
    | nil =>
      rw [step?_of_nil started r reading waiting] at stepped
      split at stepped
      next =>
        cases stepped
        exact Nat.lt_of_le_of_lt (rank_of_stopped (isReading_of_end reading r)) (by simp)
      next => cases stepped
  | false =>
    cases finished : s.call.isDone with
    | true =>
      rw [step?_of_isDone finished] at stepped
      cases stepped
    | false =>
      obtain ⟨t, stepped', call, -⟩ := moves_finish started r reading finished
      obtain rfl : s' = t := congrArg Prod.fst (Option.some.inj (stepped.symm.trans stepped'))
      unfold rank
      rw [call]
      unfold Call.finish
      cases phase : s.call.phase with
      | awaiting | relaying code role =>
        rw [Call.isReading, phase] at reading
        cases reading
      | leaving code role => exact Nat.lt_succ_self 1
      | closing => exact Nat.zero_lt_one
      | done =>
        rw [Call.isDone, phase] at finished
        cases finished

end Rendezvous.WebSocket
