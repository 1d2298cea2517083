import Mathlib.Logic.Relation
import Rendezvous.Proofs.Signaling.Fate

/-!
# Rooms that follow each other under one code

The code of a room that has ended may be drawn again. Which room a code meant at an earlier
time is then a question of history: a room is the same as long as its code was live all the
time (`Lasts`), and meanwhile it has gone through events of its own only (`becomes_run`). A
room that is found after a gap has been begun since (`begun_since`).

A call keeps the code that it has joined with and nothing else. What it reads goes into the
room that the code means at that moment, so it stays where it belongs exactly as long as
the room lasts, or as long as no other has the code (`confined_read_iff`).
-/

namespace Rendezvous

/-- Events of one room led from one state of it to the other. -/
def Session.Becomes : Session → Session → Prop :=
  Relation.ReflTransGen fun s s' => ∃ o now ev, s' = (Stage.step ⟨s, o, now⟩ ev).session

namespace Signaling.World

/-! ## What became of a room -/

section
variable {w : World} {code : String} {s s' : Session}

/-- A room that is there before and after a step is the same room. -/
theorem becomes_step (keyed : Relay.Keyed w.relay.rooms) (ev : Event)
    (live : w.relay.find? code = some s) (live' : (w.step ev).relay.find? code = some s') :
    s.Becomes s' := by
  obtain ⟨d, -, alike⟩ := w.turn_step ev
  rw [alike.find?] at live'
  cases Relay.fate_perform keyed d code with
  | untouched same =>
    rw [same, live] at live'
    cases live'
    exact .refl
  | begins isDeed absent made =>
    rw [live] at absent
    cases absent
  | ends isDeed was gone =>
    rw [gone] at live'
    cases live'
  | moves isDeed was moved =>
    rw [live] at was
    cases was
    rw [moved] at live'
    cases live'
    exact .single ⟨_, _, _, rfl⟩

/-- A room that is there only after a step has been begun with it. -/
theorem begun_step (keyed : Relay.Keyed w.relay.rooms) (ev : Event)
    (absent : w.relay.find? code = none) (live : (w.step ev).relay.find? code = some s) :
    ∃ presenter, s = .start code presenter w.relay.limits w.relay.now := by
  obtain ⟨d, -, alike⟩ := w.turn_step ev
  rw [alike.find?] at live
  cases Relay.fate_perform keyed d code with
  | untouched same =>
    rw [same, absent] at live
    cases live
  | @begins presenter isDeed absent made =>
    rw [made] at live
    exact ⟨presenter, (Option.some.inj live).symm⟩
  | ends isDeed was gone =>
    rw [gone] at live
    cases live
  | moves isDeed was moved =>
    rw [absent] at was
    cases was

end

/-- From a world on, the code was live after each of some events, and so it has meant one
room all the time. -/
def Lasts (w : World) (code : String) (events : List Event) : Prop :=
  ∀ earlier, earlier <+: events → (w.run earlier).relay.isLive code = true

/-- A room has been begun with one of some events, and has become another state since. -/
def BegunSince (w : World) (code : String) (events : List Event) (s : Session) : Prop :=
  ∃ earlier ev rest presenter limits now, events = earlier ++ ev :: rest ∧
    (w.run earlier).relay.find? code = none ∧
    (w.run (earlier ++ [ev])).relay.find? code = some (.start code presenter limits now) ∧
    (Session.start code presenter limits now).Becomes s

section
variable {limits : Limits} {candidates : Nat → String} {before later : List Event}
  {w : World} {code : String} {s : Session}

/-- A code lasts through one more event if it is live after it. -/
theorem lasts_snoc {ev : Event} :
    w.Lasts code (later ++ [ev]) ↔
      w.Lasts code later ∧ (w.run (later ++ [ev])).relay.isLive code = true := by
  constructor
  · intro lasts
    refine ⟨fun earlier isPrefix => lasts earlier (isPrefix.trans (List.prefix_append ..)), ?_⟩
    exact lasts _ (List.prefix_refl _)
  · rintro ⟨lasts, live⟩ earlier isPrefix
    rcases List.prefix_concat_iff.mp isPrefix with rfl | sooner
    · exact live
    · exact lasts earlier sooner

/-- **A room that lasts** has gone through events of its own only. -/
theorem becomes_run (reached : w = (start limits candidates).run before)
    (live : w.relay.find? code = some s) (lasts : w.Lasts code later) :
    ∃ s', (w.run later).relay.find? code = some s' ∧ s.Becomes s' := by
  induction later using List.reverseRecOn with
  | nil => exact ⟨s, live, .refl⟩
  | append_singleton later ev ih =>
    obtain ⟨lasted, now⟩ := lasts_snoc.mp lasts
    obtain ⟨middle, found, became⟩ := ih lasted
    obtain ⟨s', found'⟩ := Option.isSome_iff_exists.mp now
    refine ⟨s', found', became.trans ?_⟩
    rw [run_snoc] at found'
    have keyed : Relay.Keyed (w.run later).relay.rooms := by
      rw [reached, ← run_append]
      exact keyed_run ..
    exact becomes_step keyed ev found found'

/-- **A room that is found after a gap** has been begun since. -/
theorem begun_since (reached : w = (start limits candidates).run before)
    (gap : ¬ w.Lasts code later) (live : (w.run later).relay.find? code = some s)
    (was : w.relay.isLive code = true) : w.BegunSince code later s := by
  induction later using List.reverseRecOn generalizing s with
  | nil =>
    refine absurd (fun earlier isPrefix => ?_) gap
    rw [List.prefix_nil.mp isPrefix]
    exact was
  | append_singleton later ev ih =>
    have keyed : Relay.Keyed (w.run later).relay.rooms := by
      rw [reached, ← run_append]
      exact keyed_run ..
    have after := live
    rw [run_snoc] at live
    -- Either the gap reaches up to the last event, or the room was there before it already.
    cases found : (w.run later).relay.find? code with
    | none =>
      obtain ⟨presenter, rfl⟩ := begun_step keyed ev found live
      exact ⟨later, ev, [], presenter, _, _, rfl, found, after, .refl⟩
    | some middle =>
      have gapBefore : ¬ w.Lasts code later := by
        intro lasted
        refine gap (lasts_snoc.mpr ⟨lasted, ?_⟩)
        rw [Relay.isLive, after]
        rfl
      obtain ⟨earlier, first, rest, presenter, limits', now, rfl, absent, made, became⟩ :=
        ih gapBefore found
      refine ⟨earlier, first, rest ++ [ev], presenter, limits', now, by simp, absent, made, ?_⟩
      exact became.trans (becomes_step keyed ev found live)

end

/-! ## What a call reads after it has joined -/

/-- A call joins a room with the first thing that it reads. -/
def Joins (w : World) (i : Nat) (first : Option Inbound) (code : String) (role : Role) : Prop :=
  ∃ id, w.calls[i]? = some ⟨id, .awaiting⟩ ∧
    (w.step (.read i first)).calls[i]? = some ⟨id, .relaying code role⟩

/-- What a call reads stays where it belongs. It changes the room of its code at most, and is
sent to nobody but the other side there. If the room that was joined is gone, it changes
nothing, and the call reads no longer. -/
structure Confined (w : World) (i : Nat) (code : String) (role : Role) (lasts : Prop)
    (next : Option Inbound) : Prop where
  rooms : ∀ other, other ≠ code →
    (w.step (.read i next)).relay.find? other = w.relay.find? other
  channels : ∀ id, ¬ w.relay.Seated id code role.peer →
    (w.step (.read i next)).relay.channel id = w.relay.channel id
  ended : ¬ lasts → (w.step (.read i next)).relay.rooms = w.relay.rooms ∧
    (∀ id, (w.step (.read i next)).relay.channel id = w.relay.channel id) ∧
    ∀ c, (w.step (.read i next)).calls[i]? = some c → c.isReading = false

section
variable {w : World} {i : Nat} {c : Call} {code : String} {role : Role} {next : Option Inbound}
  {e : Envelope}

theorem step_read (called : w.calls[i]? = some c) (next : Option Inbound) :
    w.step (.read i next) = ⟨(c.read w.relay next).2, w.calls.set i (c.read w.relay next).1⟩ := by
  show w.onCall i (fun c r => c.read r next) = _
  rw [onCall_of_some called]

/-- A room that is joined is there. -/
theorem Joins.isLive {first : Option Inbound} (joins : w.Joins i first code role) :
    (w.step (.read i first)).relay.isLive code = true := by
  obtain ⟨id, called, after⟩ := joins
  obtain ⟨d, move, alike⟩ := Call.move_read ⟨id, .awaiting⟩ w.relay first
  have inside : i < w.calls.length := (List.getElem?_eq_some_iff.mp called).1
  rw [step_read called] at after ⊢
  have now : (Call.read ⟨id, .awaiting⟩ w.relay first).1 = ⟨id, .relaying code role⟩ :=
    Option.some.inj ((List.getElem?_set_self inside).symm.trans after)
  rw [now] at move
  show Option.isSome (Relay.find? _ code) = true
  rw [alike.find?]
  cases move with
  | joins live =>
    rw [Relay.find?_within, if_pos rfl, Option.isSome_map]
    exact live

/-- What is read goes into the room that has the code now. -/
theorem read_of_live (called : w.calls[i]? = some c) (relaying : c.phase = .relaying code role)
    (isMessage : envelope? next = some e) {s : Session} (live : w.relay.find? code = some s) :
    (w.step (.read i next)).calls[i]? = some c ∧
    (w.step (.read i next)).relay = (w.relay.send code role.peer e).2 := by
  have inside : i < w.calls.length := (List.getElem?_eq_some_iff.mp called).1
  rw [step_read called, Call.read_of_envelope relaying live isMessage]
  exact ⟨List.getElem?_set_self inside, rfl⟩

/-- In a room that is gone a call stops reading, and nothing else happens. -/
theorem read_of_gone (next : Option Inbound) (called : w.calls[i]? = some c) (relaying : c.phase = .relaying code role)
    (gone : w.relay.find? code = none) :
    (w.step (.read i next)).calls[i]? = some ⟨c.connection, .leaving code role⟩ ∧
    (w.step (.read i next)).relay.Alike w.relay := by
  have inside : i < w.calls.length := (List.getElem?_eq_some_iff.mp called).1
  rw [step_read called, Call.read_of_none relaying (Or.inr gone)]
  exact ⟨List.getElem?_set_self inside, _, rfl⟩

/-- A message is confined exactly if the room that was joined lasts, or no room has its
code. -/
theorem confined_iff (called : w.calls[i]? = some c) (relaying : c.phase = .relaying code role)
    (isMessage : envelope? next = some e) (lasts : Prop) :
    w.Confined i code role lasts next ↔ lasts ∨ w.relay.find? code = none := by
  cases live : w.relay.find? code with
  | none =>
    obtain ⟨after, alike⟩ := read_of_gone next called relaying live
    refine ⟨fun _ => Or.inr rfl, fun _ => ⟨fun other _ => alike.find? other,
      fun id _ => alike.channel id, fun _ => ⟨alike.rooms, alike.channel, ?_⟩⟩⟩
    intro d isCall
    obtain rfl := Option.some.inj (after.symm.trans isCall)
    rfl
  | some s =>
    obtain ⟨after, sent⟩ := read_of_live called relaying isMessage live
    constructor
    · -- A live room takes the message and the call goes on reading, which the gap would forbid.
      intro confined
      by_cases lasted : lasts
      · exact Or.inl lasted
      · have stopped := (confined.ended lasted).2.2 c after
        rw [Call.isReading, relaying] at stopped
        cases stopped
    · rintro (lasted | gone)
      · refine ⟨fun other differ => ?_, fun id away => ?_, fun gone => absurd lasted gone⟩
        · rw [sent, Relay.send_eq]
          show (w.relay.perform _).find? other = _
          rw [Relay.find?_within, if_neg fun same => differ same.symm]
        · rw [sent, Relay.channel_send live, if_neg]
          exact fun held => away ⟨s, live, held⟩
      · cases gone

end

/-- **Messages that outlive their room.** A call has joined a room, and any events have
followed. If it still reads, a message that it reads now stays where it belongs exactly if
the room that it joined has lasted, or if no room has the code. Otherwise the message goes
into a room that has been begun since. -/
theorem confined_read_iff (limits : Limits) (candidates : Nat → String)
    (before later : List Event) {i : Nat} {first next : Option Inbound} {code : String}
    {role : Role} (joins : ((start limits candidates).run before).Joins i first code role)
    {joined w : World} (arrived : joined = (start limits candidates).run (before ++ [.read i first]))
    (reached : w = joined.run later) {c : Call} (called : w.calls[i]? = some c)
    (reading : c.isReading = true) {e : Envelope} (isMessage : envelope? next = some e) :
    (w.Confined i code role (joined.Lasts code later) next ↔
      joined.Lasts code later ∨ w.relay.find? code = none) ∧
    ∀ s, w.relay.find? code = some s →
      (w.step (.read i next)).relay.find? code = some (s.relay role.peer e w.relay.now).1 ∧
      (joined.Lasts code later → ∃ s₀, joined.relay.find? code = some s₀ ∧ s₀.Becomes s) ∧
      (¬ joined.Lasts code later → joined.BegunSince code later s) := by
  have was := joins.isLive
  obtain ⟨id, -, after⟩ := joins
  rw [← run_snoc, ← arrived] at was after
  obtain ⟨d, stillCalled, hasJoined⟩ := hasJoined_run after (Or.inl rfl) later
  rw [← reached] at stillCalled
  obtain rfl : d = c := Option.some.inj (stillCalled.symm.trans called)
  -- Having joined it relays until it stops, and it has not stopped.
  have relaying : d.phase = .relaying code role := by
    rcases hasJoined with relaying | stopped
    · exact relaying
    · rw [reading] at stopped
      cases stopped
  refine ⟨confined_iff called relaying isMessage _, fun s live => ⟨?_, fun lasts => ?_, fun gap => ?_⟩⟩
  · rw [(read_of_live called relaying isMessage live).2]
    exact Relay.find?_send live ..
  · obtain ⟨s₀, live₀⟩ := Option.isSome_iff_exists.mp was
    obtain ⟨s', live', became⟩ := becomes_run arrived live₀ lasts
    rw [← reached, live] at live'
    cases live'
    exact ⟨s₀, live₀, became⟩
  · rw [reached] at live
    exact begun_since arrived gap live was

/-- A host opens a room and is served. -/
def opening : List Event := [.create "host", .connect 8, .serve ⟨0⟩]

/-- With this it joins. -/
def hosting : Option Inbound := some (.text "\x7b\"roomCode\":\"room\",\"role\":\"presenter\"\x7d")

/-- The room is removed, and a stranger is given one with the same code. -/
def handover : List Event := [.remove "room", .create "stranger"]

/-- What the host still has to say. -/
def offering : Option Inbound := some (.text "\x7b\"type\":\"offer\",\"trackType\":\"video\"\x7d")

theorem joins_opening :
    ((start ⟨4, 2⟩ fun _ => "room").run opening).Joins 0 hosting "room" .presenter :=
  ⟨⟨0⟩, rfl, rfl⟩

/-- The code was not live all the time. -/
theorem not_lasts_handover :
    ¬ ((start ⟨4, 2⟩ fun _ => "room").run (opening ++ [.read 0 hosting])).Lasts "room" handover := by
  intro lasts
  have live := lasts [.remove "room"] ⟨[.create "stranger"], rfl⟩
  exact absurd live (by decide)

/-- Whether the host's next words stay where they belong is decided by that. -/
theorem confined_read_iff_handover :
    let joined := (start ⟨4, 2⟩ fun _ => "room").run (opening ++ [.read 0 hosting])
    let w := joined.run handover
    ((start ⟨4, 2⟩ fun _ => "room").run opening).Joins 0 hosting "room" .presenter ∧
    (w.Confined 0 "room" .presenter (joined.Lasts "room" handover) offering ↔
      joined.Lasts "room" handover ∨ w.relay.find? "room" = none) :=
  ⟨joins_opening, (confined_read_iff ⟨4, 2⟩ (fun _ => "room") opening handover joins_opening rfl rfl
    rfl rfl rfl).1⟩

/-- What there is in a room: its host, what waits for the viewer, and the host's offer. -/
def contents (r : Relay) : Option (Option String × List Envelope × Option Envelope) :=
  (r.find? "room").map fun s =>
    ((s.slot .presenter).identity, s.pending .viewer, s.cached? .presenter .offer "video")

/-- The offer is queued and cached in the room of the stranger, and the host reads on. -/
theorem offer_reaches_stranger :
    let joined := (start ⟨4, 2⟩ fun _ => "room").run (opening ++ [.read 0 hosting])
    let w := joined.run handover
    ((start ⟨4, 2⟩ fun _ => "room").run opening).Joins 0 hosting "room" .presenter ∧
    ¬ joined.Lasts "room" handover ∧
    contents w.relay = some (some "stranger", [], none) ∧
    contents (w.step (.read 0 offering)).relay
      = some (some "stranger", [⟨.offer, .null, "video"⟩], some ⟨.offer, .null, "video"⟩) ∧
    (w.step (.read 0 offering)).calls = [⟨⟨0⟩, .relaying "room" .presenter⟩] ∧
    ¬ w.Confined 0 "room" .presenter (joined.Lasts "room" handover) offering := by
  refine ⟨joins_opening, not_lasts_handover, rfl, rfl, rfl, fun confined => ?_⟩
  have stopped := (confined.ended not_lasts_handover).2.2 ⟨⟨0⟩, .relaying "room" .presenter⟩ rfl
  cases stopped

end Signaling.World

end Rendezvous
