import Rendezvous.Proofs.Signaling.Operation

/-!
# What a call asks of the relay

A call is served in steps of its own among everything else that happens, and the room it has
joined may change, go, and come again between any two of them. What it asks of the relay
follows a fixed procedure all the same (`served_by_procedure`): one join, one send for each
message that it reads, and one leave.

`World.performed` is what a call asks in a run, each time with the answer that the relay
gives at that moment. Beside this a call does nothing but tell its own connection something
(`step_asked`). `Follows` is the middle part of the procedure, case by case as the stream
goes on.
-/

namespace Rendezvous

/-- A message was for a room that is gone. -/
def Answer.isGone : Answer → Bool
  | .relayed (.error (.roomNotFound _)) => true
  | _ => false

/-- A send is answered so exactly if there is no room of the code. -/
theorem Relay.isGone_send (r : Relay) (code : String) (destination : Role) (e : Envelope) :
    (r.operate (.send code destination e)).1.isGone = !r.isLive code := by
  unfold operate
  dsimp only
  cases live : r.find? code with
  | none => rw [send_of_gone live, isLive, live]; rfl
  | some s =>
    rw [send_of_live live, isLive, live]
    cases (s.send r.outlet destination e r.now).1 <;> rfl

namespace Signaling

/-- What a first message asks for. -/
def opening? : Option Inbound → Option Subscription
  | some (.text s) => (Subscription.ofText s).toOption
  | some (.failure _) | none => none

namespace Call

/-- What a call asks of the relay when it reads this. -/
def asks? (c : Call) (next : Option Inbound) : Option Operation :=
  match c.phase with
  | .awaiting => (opening? next).map fun s => .join s.code s.role c.connection
  | .relaying code role => (envelope? next).map (.send code role.peer)
  | _ => none

/-- What a call asks of the relay with a step to its end. -/
def parts? (c : Call) : Option Operation :=
  match c.phase with
  | .leaving code role => some (.leave code role c.connection)
  | _ => none

/-- The call is behind the step with which it leaves. -/
def hasLeft (c : Call) : Bool :=
  match c.phase with
  | .closing | .done => true
  | _ => false

/-- What is done to the relay is what is asked of it, and the call tells its connection
something at most. -/
def Does (c : Call) (r : Relay) (asked? : Option Operation) (r' : Relay) : Prop :=
  ∃ frames,
    r'.Alike ((asked?.elim r fun op => (r.operate op).2).perform (.tell c.connection frames))

/-- Reading does to the relay what the call asks of it. -/
theorem does_read (c : Call) (r : Relay) (next : Option Inbound) :
    c.Does r (c.asks? next) (c.read r next).2 := by
  obtain ⟨id, phase⟩ := c
  cases phase with
  | awaiting =>
    rcases next with _ | ⟨text | fault⟩
    · exact ⟨[], .refl r⟩
    · unfold asks? read
      dsimp only [readFirst, opening?]
      cases Subscription.ofText text with
      | error fault => exact ⟨rejection fault, .refl _⟩
      | ok s =>
        show Does _ r (some (.join s.code s.role id)) (subscribe ⟨id, .awaiting⟩ r s).2
        unfold subscribe
        cases joined : r.join s.code s.role id with
        | mk live r' =>
          have after : (r.operate (.join s.code s.role id)).2 = r' := congrArg Prod.snd joined
          cases live with
          | true => exact ⟨[], _, by rw [Option.elim_some, after]; rfl⟩
          | false =>
            refine ⟨rejection (.roomNotFound s.code), ?_⟩
            rw [Option.elim_some, after]
            exact .refl _
    · exact ⟨[], .refl r⟩
  | relaying code role =>
    unfold asks?
    dsimp only
    cases isMessage : envelope? next with
    | none =>
      rw [read_of_none rfl (Or.inl isMessage)]
      exact ⟨[], _, rfl⟩
    | some e =>
      cases live : r.find? code with
      | none =>
        rw [read_of_none rfl (Or.inr live)]
        -- It asks in vain: the room is gone and the sending changes nothing.
        have after : (r.operate (.send code role.peer e)).2 = r :=
          congrArg Prod.snd (Relay.send_of_gone live _ _)
        refine ⟨[], ?_⟩
        rw [Option.map_some, Option.elim_some, after]
        exact ⟨_, rfl⟩
      | some s =>
        rw [read_of_envelope rfl live isMessage]
        exact ⟨[], .refl _⟩
  | leaving code role | closing | done => exact ⟨[], .refl r⟩

theorem does_finish (c : Call) (r : Relay) : c.Does r c.parts? (c.finish r).2 := by
  obtain ⟨id, phase⟩ := c
  cases phase with
  | closing => exact ⟨[.close doneReason], .refl _⟩
  | awaiting | relaying code role | leaving code role | done => exact ⟨[], .refl _⟩

/-- A call that has left only has its connection to close. -/
theorem of_left {c : Call} (left : c.hasLeft = true) :
    (∀ next, c.asks? next = none) ∧ c.parts? = none ∧ c.isReading = false ∧
      ∀ r, (c.finish r).1.connection = c.connection ∧ (c.finish r).1.hasLeft = true := by
  obtain ⟨id, phase⟩ := c
  cases phase with
  | awaiting | relaying | leaving => cases left
  | closing | done => exact ⟨fun _ => rfl, rfl, rfl, fun _ => ⟨rfl, rfl⟩⟩

/-- Two steps bring a call that reads no longer to its end. -/
theorem done_of_finish {c : Call} (stopped : c.isReading = false) (r r' : Relay) :
    ((c.finish r).1.finish r').1 = ⟨c.connection, .done⟩ := by
  obtain ⟨id, phase⟩ := c
  cases phase with
  | awaiting | relaying => cases stopped
  | leaving | closing | done => rfl

end Call

/-- The middle part of the procedure, between joining and leaving: what is read, what was asked
of the relay for it and how it was answered, and whether the call reads on. A message is sent
once, and whatever comes of it, the next is read, unless the room was gone. -/
inductive Follows (code : String) (role : Role) :
    List (Option Inbound) → List (Operation × Answer) → Bool → Prop
  | waits : Follows code role [] [] true
  | sends {next : Option Inbound} {e : Envelope} {answer : Answer} {rest : List (Option Inbound)}
      {later : List (Operation × Answer)} {reading : Bool} (isMessage : envelope? next = some e)
      (here : answer.isGone = false) (goesOn : Follows code role rest later reading) :
      Follows code role (next :: rest) ((.send code role.peer e, answer) :: later) reading
  | loses {next : Option Inbound} {e : Envelope} {answer : Answer} {rest : List (Option Inbound)}
      (isMessage : envelope? next = some e) (gone : answer.isGone = true) :
      Follows code role (next :: rest) [(.send code role.peer e, answer)] false
  | stops {next : Option Inbound} {rest : List (Option Inbound)}
      (isNone : envelope? next = none) : Follows code role (next :: rest) [] false

namespace World

/-- What an event brings for a call to read. -/
def Event.read? (i : Nat) : Event → Option (Option Inbound)
  | .read j next => if j = i then some next else none
  | _ => none

/-- All that a call is given to read in a run, in order. -/
def readings (i : Nat) (events : List Event) : List (Option Inbound) :=
  events.filterMap (Event.read? i)

/-- What a call asks of the relay with an event. -/
def asked? (w : World) (i : Nat) : Event → Option Operation
  | .read j next => if j = i then w.calls[i]?.bind (·.asks? next) else none
  | .finish j => if j = i then w.calls[i]?.bind Call.parts? else none
  | _ => none

/-- What a call asks of the relay in a run, and how it is answered. -/
def performed (i : Nat) : World → List Event → List (Operation × Answer)
  | _, [] => []
  | w, ev :: rest =>
    ((w.asked? i ev).map fun op => (op, (w.relay.operate op).1)).toList ++
      performed i (w.step ev) rest

variable {w : World} {i : Nat} {c : Call} {id : ConnId} {code : String} {role : Role} {ev : Event}

/-- What a call asks for in two parts of a run, it asks for one after the other. -/
theorem performed_append (w : World) (i : Nat) (before after : List Event) :
    w.performed i (before ++ after) = w.performed i before ++ (w.run before).performed i after := by
  induction before generalizing w with
  | nil => rfl
  | cons ev before ih =>
    rw [List.cons_append, performed, performed, ih, List.append_assoc]
    rfl

/-! ## Steps -/

/-- A call is moved by reading and by being brought to its end, and by nothing else. -/
theorem own_cases (own : ev.call? = some i) : (∃ next, ev = .read i next) ∨ ev = .finish i := by
  cases ev with
  | read j next =>
    obtain rfl := Option.some.inj own
    exact Or.inl ⟨next, rfl⟩
  | finish j =>
    obtain rfl := Option.some.inj own
    exact Or.inr rfl
  | _ => cases own

theorem call_read (called : w.calls[i]? = some c) (next : Option Inbound) :
    (w.step (.read i next)).calls[i]? = some (c.read w.relay next).1 ∧
    (w.step (.read i next)).relay = (c.read w.relay next).2 := by
  have inside := (List.getElem?_eq_some_iff.mp called).1
  show (w.onCall i fun c r => c.read r next).calls[i]? = _ ∧ (w.onCall i _).relay = _
  rw [onCall_of_some called]
  exact ⟨List.getElem?_set_self inside, rfl⟩

theorem call_finish (called : w.calls[i]? = some c) :
    (w.step (.finish i)).calls[i]? = some (c.finish w.relay).1 ∧
    (w.step (.finish i)).relay = (c.finish w.relay).2 := by
  have inside := (List.getElem?_eq_some_iff.mp called).1
  show (w.onCall i Call.finish).calls[i]? = _ ∧ (w.onCall i _).relay = _
  rw [onCall_of_some called]
  exact ⟨List.getElem?_set_self inside, rfl⟩

/-- What is none of a call's steps asks nothing for it and leaves it as it is. -/
theorem of_other (called : w.calls[i]? = some c) (other : ev.call? ≠ some i) :
    (w.step ev).calls[i]? = some c ∧ w.asked? i ev = none ∧ ev.read? i = none := by
  have inside := (List.getElem?_eq_some_iff.mp called).1
  -- A step of another call changes the list of calls in another place only.
  have elsewhere : ∀ (j : Nat) (f : Call → Relay → Call × Relay), j ≠ i →
      (w.onCall j f).calls[i]? = some c := by
    intro j f differ
    cases another : w.calls[j]? with
    | none =>
      rw [onCall, another]
      exact called
    | some d =>
      rw [onCall_of_some another]
      exact (List.getElem?_set_ne differ).trans called
  cases ev with
  | read j next =>
    have differ : j ≠ i := fun same => other (congrArg some same)
    exact ⟨elsewhere j _ differ, if_neg differ, if_neg differ⟩
  | finish j =>
    have differ : j ≠ i := fun same => other (congrArg some same)
    exact ⟨elsewhere j _ differ, if_neg differ, rfl⟩
  | serve served =>
    refine ⟨?_, rfl, rfl⟩
    show (w.calls ++ [Call.start served])[i]? = some c
    rw [List.getElem?_append_left inside]
    exact called
  | create | remove | evict | claim | clear | join | leave | send | connect | take | drop | wait =>
    exact ⟨called, rfl, rfl⟩

theorem asked?_read (called : w.calls[i]? = some c) (next : Option Inbound) :
    w.asked? i (.read i next) = c.asks? next := by
  rw [asked?, if_pos rfl, called]
  rfl

theorem asked?_finish (called : w.calls[i]? = some c) : w.asked? i (.finish i) = c.parts? := by
  rw [asked?, if_pos rfl, called]
  rfl

/-- **A call does what it asks, and nothing else**, but for what its own connection is told. -/
theorem step_asked (called : w.calls[i]? = some c) (own : ev.call? = some i) :
    c.Does w.relay (w.asked? i ev) (w.step ev).relay := by
  rcases own_cases own with ⟨next, rfl⟩ | rfl
  · rw [asked?_read called, (call_read called next).2]
    exact c.does_read w.relay next
  · rw [asked?_finish called, (call_finish called).2]
    exact c.does_finish w.relay

/-! ## Runs -/

/-- How a call has gone on since it joined: it follows the procedure, and has left or not. -/
structure Goes (w : World) (i : Nat) (id : ConnId) (code : String) (role : Role)
    (events : List Event) (sends : List (Operation × Answer)) (c : Call) : Prop where
  called : (w.run events).calls[i]? = some c
  same : c.connection = id
  follows : Follows code role (readings i events) sends c.isReading
  performed : w.performed i events =
    sends ++ if c.hasLeft then [(.leave code role id, .silence)] else []

/-- A call that has left asks for nothing more. -/
theorem performed_of_left (called : w.calls[i]? = some c) (left : c.hasLeft = true)
    (events : List Event) : w.performed i events = [] ∧
      ∃ c', (w.run events).calls[i]? = some c' ∧ c'.connection = c.connection ∧
        c'.isReading = false ∧ c'.hasLeft = true := by
  induction events generalizing w c with
  | nil => exact ⟨rfl, c, called, rfl, (Call.of_left left).2.2.1, left⟩
  | cons ev rest ih =>
    -- Whatever the event is, nothing is asked, and the call stays behind the step of leaving.
    suffices quiet : w.asked? i ev = none ∧ ∃ c', (w.step ev).calls[i]? = some c' ∧
        c'.connection = c.connection ∧ c'.hasLeft = true by
      obtain ⟨unasked, c', called', same, left'⟩ := quiet
      obtain ⟨nothing, c'', called'', same', after⟩ := ih called' left'
      refine ⟨?_, c'', called'', same'.trans same, after⟩
      rw [performed, unasked, nothing]
      rfl
    obtain ⟨unasking, staying, stopped, finishes⟩ := Call.of_left left
    by_cases own : ev.call? = some i
    · rcases own_cases own with ⟨next, rfl⟩ | rfl
      · have after := (call_read called next).1
        rw [Call.read_of_stopped stopped] at after
        exact ⟨(asked?_read called next).trans (unasking next), c, after, rfl, left⟩
      · exact ⟨(asked?_finish called).trans staying, _, (call_finish called).1, finishes _⟩
    · obtain ⟨called', unasked, -⟩ := of_other called own
      exact ⟨unasked, c, called', rfl, left⟩

/-- A call that reads no longer leaves once. -/
theorem performed_of_leaving (called : w.calls[i]? = some ⟨id, .leaving code role⟩)
    (events : List Event) :
    ∃ c, (w.run events).calls[i]? = some c ∧ c.connection = id ∧ c.isReading = false ∧
      w.performed i events = if c.hasLeft then [(.leave code role id, .silence)] else [] := by
  induction events generalizing w with
  | nil => exact ⟨_, called, rfl, rfl, rfl⟩
  | cons ev rest ih =>
    -- Steps of other calls ask for nothing here. Of its own, a reading does not move it and a
    -- finish does.
    by_cases own : ev.call? = some i
    · rcases own_cases own with ⟨next, rfl⟩ | rfl
      · obtain ⟨c, result⟩ := ih (call_read called next).1
        refine ⟨c, result.1, result.2.1, result.2.2.1, ?_⟩
        rw [performed, asked?_read called, ← result.2.2.2]
        rfl
      · obtain ⟨nothing, c, called', same, stopped, left⟩ :=
          performed_of_left (call_finish called).1 rfl rest
        refine ⟨c, called', same, stopped, ?_⟩
        rw [performed, asked?_finish called, nothing, left]
        rfl
    · obtain ⟨called', unasked, -⟩ := of_other called own
      obtain ⟨c, result⟩ := ih called'
      refine ⟨c, result.1, result.2.1, result.2.2.1, ?_⟩
      rw [performed, unasked, ← result.2.2.2]
      rfl

/-- **A call that has joined** sends what it reads for as long as it can, and leaves once. -/
theorem goes_of_relaying (called : w.calls[i]? = some ⟨id, .relaying code role⟩)
    (events : List Event) : ∃ sends c, w.Goes i id code role events sends c := by
  -- The phase stays as it is until the call reads its last, and from there it only leaves.
  induction events generalizing w with
  | nil => exact ⟨[], _, called, rfl, .waits, rfl⟩
  | cons ev rest ih =>
    by_cases own : ev.call? = some i
    · rcases own_cases own with ⟨next, rfl⟩ | rfl
      · have read : readings i (.read i next :: rest) = next :: readings i rest :=
          List.filterMap_cons_some (if_pos rfl)
        have after := (call_read called next).1
        have asks : w.asked? i (.read i next) = (envelope? next).map (.send code role.peer) :=
          asked?_read called next
        cases isMessage : envelope? next with
        | none =>
          rw [Call.read_of_none rfl (Or.inl isMessage)] at after
          obtain ⟨c, called', same, stopped, left⟩ := performed_of_leaving after rest
          refine ⟨[], c, called', same, ?_, ?_⟩
          · rw [read, stopped]
            exact .stops isMessage
          · rw [performed, asks, isMessage, left]
            rfl
        | some e =>
          have isGone := w.relay.isGone_send code role.peer e
          let answer := (w.relay.operate (.send code role.peer e)).1
          cases live : w.relay.find? code with
          | none =>
            rw [Call.read_of_none rfl (Or.inr live)] at after
            rw [Relay.isLive, live] at isGone
            obtain ⟨c, called', same, stopped, left⟩ := performed_of_leaving after rest
            refine ⟨[(.send code role.peer e, answer)], c, called', same, ?_, ?_⟩
            · rw [read, stopped]
              exact .loses isMessage isGone
            · rw [performed, asks, isMessage, left]
              rfl
          | some s =>
            rw [Call.read_of_envelope rfl live isMessage] at after
            rw [Relay.isLive, live] at isGone
            obtain ⟨sends, c, goes⟩ := ih after
            refine ⟨(.send code role.peer e, answer) :: sends, c, goes.called, goes.same, ?_, ?_⟩
            · rw [read]
              exact .sends isMessage isGone goes.follows
            · rw [performed, asks, isMessage, goes.performed]
              rfl
      · obtain ⟨sends, c, goes⟩ := ih (call_finish called).1
        refine ⟨sends, c, goes.called, goes.same, goes.follows, ?_⟩
        rw [performed, asked?_finish called, goes.performed]
        rfl
    · obtain ⟨called', unasked, unread⟩ := of_other called own
      obtain ⟨sends, c, goes⟩ := ih called'
      refine ⟨sends, c, goes.called, goes.same, ?_, ?_⟩
      · rw [readings, List.filterMap_cons_none unread]
        exact goes.follows
      · rw [performed, unasked, goes.performed]
        rfl

/-- A call that has read nothing yet has asked for nothing. -/
theorem performed_of_unread (called : w.calls[i]? = some ⟨id, .awaiting⟩) {events : List Event}
    (unread : readings i events = []) :
    w.performed i events = [] ∧ (w.run events).calls[i]? = some ⟨id, .awaiting⟩ := by
  induction events generalizing w with
  | nil => exact ⟨rfl, called⟩
  | cons ev rest ih =>
    have nothing := List.filterMap_eq_nil_iff.mp unread
    have unread' : readings i rest = [] :=
      List.filterMap_eq_nil_iff.mpr fun x mem => nothing x (List.mem_cons_of_mem _ mem)
    by_cases own : ev.call? = some i
    · rcases own_cases own with ⟨next, rfl⟩ | rfl
      · have isRead := nothing _ List.mem_cons_self
        rw [Event.read?, if_pos rfl] at isRead
        cases isRead
      · obtain ⟨quiet, called'⟩ := ih (call_finish called).1 unread'
        refine ⟨?_, called'⟩
        rw [performed, asked?_finish called, quiet]
        rfl
    · obtain ⟨called', unasked, -⟩ := of_other called own
      obtain ⟨quiet, called''⟩ := ih called' unread'
      refine ⟨?_, called''⟩
      rw [performed, unasked, quiet]
      rfl

/-- What a call asks with its first reading, and how it stands then. -/
theorem performed_first (called : w.calls[i]? = some ⟨id, .awaiting⟩) (first : Option Inbound) :
    (opening? first = none → w.asked? i (.read i first) = none ∧
      (w.step (.read i first)).calls[i]? = some ⟨id, .done⟩) ∧
    ∀ s, opening? first = some s →
      w.asked? i (.read i first) = some (.join s.code s.role id) ∧
      (w.relay.operate (.join s.code s.role id)).1 = .truth (w.relay.isLive s.code) ∧
      (w.step (.read i first)).calls[i]? =
        some ⟨id, if w.relay.isLive s.code then .relaying s.code s.role else .done⟩ := by
  rw [asked?_read called, (call_read called first).1]
  unfold Call.asks? Call.read
  dsimp only
  constructor
  · intro isNone
    refine ⟨by rw [isNone]; rfl, ?_⟩
    rcases first with _ | ⟨text | fault⟩
    · rfl
    · dsimp only [opening?] at isNone
      dsimp only [Call.readFirst]
      cases asked : Subscription.ofText text with
      | error fault => rfl
      | ok s =>
        rw [asked] at isNone
        cases isNone
    · rfl
  · intro s isSome
    have answer : (w.relay.operate (.join s.code s.role id)).1 = .truth (w.relay.isLive s.code) := by
      unfold Relay.operate
      dsimp only
      rw [Relay.join_eq]
    refine ⟨by rw [isSome]; rfl, answer, ?_⟩
    rcases first with _ | ⟨text | fault⟩
    · cases isSome
    · dsimp only [opening?] at isSome
      dsimp only [Call.readFirst]
      cases asked : Subscription.ofText text with
      | error fault =>
        rw [asked] at isSome
        cases isSome
      | ok t =>
        rw [asked] at isSome
        obtain rfl : t = s := Option.some.inj isSome
        dsimp only [Call.subscribe]
        rw [Relay.join_eq]
        cases w.relay.isLive t.code <;> rfl
    · cases isSome

/-- **A call follows a fixed procedure**, whatever else happens between its steps and whatever
becomes of the room. Until it reads something it asks the relay for nothing. If the first
thing is no subscription, it never asks for anything; if it is one to a room that is not live,
the call asks to join, which changes nothing, and for nothing more. Otherwise it joins; then
it sends each message that it reads to the other side, in order, up to the first thing that is
none or the first that finds the room gone; and then it leaves, once. When it reads no longer,
two more steps bring it to its end, with the leave among them.

Nothing but this is done to the relay by any step of the call, but for what its own connection
is told; and a message for a room that is gone changes nothing. -/
theorem served_by_procedure (w : World) {i : Nat} {id : ConnId}
    (called : w.calls[i]? = some ⟨id, .awaiting⟩) (before : List Event)
    (unread : readings i before = []) (first : Option Inbound) (later : List Event) {v w' : World}
    (reached : v = w.run before) (ended : w' = w.run (before ++ .read i first :: later))
    {asked : List (Operation × Answer)}
    (all : asked = w.performed i (before ++ .read i first :: later)) :
    w.performed i before = [] ∧
    (opening? first = none → asked = []) ∧
    (∀ s, opening? first = some s → v.relay.isLive s.code = false →
      asked = [(.join s.code s.role id, .truth false)] ∧
      (v.relay.operate (.join s.code s.role id)).2 = v.relay) ∧
    (∀ s, opening? first = some s → v.relay.isLive s.code = true →
      ∃ sends c, w'.calls[i]? = some c ∧ Follows s.code s.role (readings i later) sends c.isReading ∧
        asked = (.join s.code s.role id, .truth true) ::
          (sends ++ if c.hasLeft then [(.leave s.code s.role id, .silence)] else []) ∧
        (c.isReading = false → (w'.run [.finish i, .finish i]).calls[i]? = some ⟨id, .done⟩)) ∧
    (∀ (u : World) (c : Call) (ev : Event), u.calls[i]? = some c → ev.call? = some i →
      c.Does u.relay (u.asked? i ev) (u.step ev).relay) ∧
    ∀ (r : Relay) (code : String) (destination : Role) (e : Envelope),
      (r.operate (.send code destination e)).1.isGone = true →
      (r.operate (.send code destination e)).2 = r := by
  obtain ⟨quiet, stillCalled⟩ := performed_of_unread called unread
  rw [performed_append, quiet, List.nil_append, ← reached] at all
  rw [run_append, ← reached] at ended
  rw [← reached] at stillCalled
  obtain ⟨unasked, asks⟩ := performed_first stillCalled first
  rw [performed] at all
  refine ⟨quiet, ?_, ?_, ?_, fun u c ev => step_asked, ?_⟩
  · intro isNone
    obtain ⟨nothing, isOver⟩ := unasked isNone
    rw [all, nothing, (performed_of_left isOver rfl later).1]
    rfl
  · intro s isSome gone
    obtain ⟨joins, answer, isOver⟩ := asks s isSome
    rw [gone] at answer isOver
    refine ⟨?_, ?_⟩
    · rw [all, joins, (performed_of_left isOver rfl later).1, Option.map_some, answer]
      rfl
    · have absent : v.relay.find? s.code = none := by
        rw [← Option.not_isSome_iff_eq_none]
        exact ne_true_of_eq_false gone
      rw [Relay.operate_deed]
      exact Relay.perform_of_gone absent _
  · intro s isSome live
    obtain ⟨joins, answer, joined⟩ := asks s isSome
    rw [live] at answer joined
    obtain ⟨sends, c, goes⟩ := goes_of_relaying joined later
    have atEnd : w'.calls[i]? = some c := by
      rw [ended]
      exact goes.called
    refine ⟨sends, c, atEnd, goes.follows, ?_, ?_⟩
    · rw [all, joins, goes.performed, Option.map_some, answer]
      rfl
    · intro stopped
      -- From leaving to closing, from closing to done: two steps are enough from anywhere.
      have atLast := (call_finish (call_finish atEnd).1).1
      rw [Call.done_of_finish stopped, goes.same] at atLast
      exact atLast
  · intro r code destination e isGone
    rw [Relay.isGone_send, Bool.not_eq_true'] at isGone
    have absent : r.find? code = none := by
      rw [← Option.not_isSome_iff_eq_none]
      exact ne_true_of_eq_false isGone
    exact congrArg Prod.snd (Relay.send_of_gone absent _ _)

/-- A guest is served in a room that a stranger takes over and that goes away in the end: it
joins, says three things, of which the last finds no room, and one more. -/
def visited : List Event :=
  let offer : Option Inbound := some (.text "\x7b\"type\":\"offer\",\"trackType\":\"video\"\x7d")
  [.read 0 offer, .remove "room", .create "stranger", .read 0 offer, .remove "room", .read 0 offer,
    .create "third", .read 0 offer, .finish 0, .finish 0]

/-- The whole visit, and what was asked of the relay in it. -/
theorem served_by_procedure_visited :
    let w := (start ⟨4, 2⟩ fun _ => "room").run [.create "host", .connect 8, .serve ⟨0⟩]
    let first : Option Inbound := some (.text "\x7b\"roomCode\":\"room\",\"role\":\"viewer\"\x7d")
    let v := w.run [.wait 5]
    w.calls[0]? = some ⟨⟨0⟩, .awaiting⟩ ∧ opening? first = some ⟨"room", .viewer⟩ ∧
    v.relay.isLive "room" = true ∧
    ∃ sends c, (w.run ([.wait 5] ++ .read 0 first :: visited)).calls[0]? = some c ∧
      Follows "room" .viewer (readings 0 visited) sends c.isReading ∧
      w.performed 0 ([.wait 5] ++ .read 0 first :: visited) =
        (.join "room" .viewer ⟨0⟩, .truth true) ::
          (sends ++ if c.hasLeft then [(.leave "room" .viewer ⟨0⟩, .silence)] else []) ∧
      (c.isReading = false → ((w.run ([.wait 5] ++ .read 0 first :: visited)).run
        [.finish 0, .finish 0]).calls[0]? = some ⟨⟨0⟩, .done⟩) :=
  ⟨rfl, rfl, rfl, (served_by_procedure _ rfl [.wait 5] rfl _ visited rfl rfl rfl).2.2.2.1
    ⟨"room", .viewer⟩ rfl rfl⟩

end World

end Signaling

end Rendezvous
