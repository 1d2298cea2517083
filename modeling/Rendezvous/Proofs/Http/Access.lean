import Mathlib.Data.List.DropRight
import Rendezvous.Http.Api
import Rendezvous.Proofs.Signaling.Membership
import Rendezvous.Proofs.Signaling.Offers

/-!
# What a request can learn

A request that does not say on whose behalf it is made is answered before anything else is
looked at: the response depends on the route and the method, and not on the rooms there are
(`handle_of_anonymous`). Which requests these are can be told by the first value of the identity
header alone (`identity?_eq_none_iff`).

A request to end a room learns nothing about the room of someone else. It is answered as if there
were no such room, and one response serves for all rooms (`endRoom_of_other`). For the room's
presenter the room is removed, and whoever is connected to it is asked to close
(`endRoom_of_presenter`). `Session.AskedToClose` says what this makes of each channel.
-/

namespace Rendezvous

namespace Text

/-- Trimming leaves nothing of a text that is all blanks, and something of any other. -/
theorem trimmed_eq_nil_iff {cs : List Char} : trimmed cs = [] ↔ ∀ c ∈ cs, isBlank c = true := by
  show (cs.dropWhile isBlank).rdropWhile isBlank = [] ↔ _
  rw [List.rdropWhile_eq_nil_iff]
  constructor
  · intro blank c mem
    -- What is left without the blanks in front would begin with a character that is none.
    by_cases left : cs.dropWhile isBlank = []
    · exact List.dropWhile_eq_nil_iff.mp left c mem
    · have first := List.head_dropWhile_not isBlank left
      rw [blank _ (List.head_mem left)] at first
      cases first
  · intro blank
    rw [List.dropWhile_eq_nil_iff.mpr blank]
    exact fun _ mem => absurd mem List.not_mem_nil

end Text

namespace Session

/-- A connection is named as often as it sits in a slot. -/
theorem replicate_count_connections (s : Session) (id : ConnId) (f : Frame) :
    List.replicate (s.connections.count id) f =
      Role.all.flatMap fun role => if (s.slot role).connection = some id then [f] else [] := by
  unfold connections
  induction Role.all with
  | nil => rfl
  | cons role rest ih =>
    rw [List.flatMap_cons, ← ih, List.filterMap_cons]
    cases held : (s.slot role).connection with
    | none => rfl
    | some other =>
      by_cases same : other = id
      · subst same
        rw [List.count_cons_self, List.replicate_succ, if_pos rfl]
        rfl
      · rw [List.count_cons_of_ne same, if_neg fun e => same (Option.some.inj e)]
        rfl

/-- What the end of a room makes of the channels. A connection in one of its slots has one more
frame behind all that it had accepted, the request to close, if somebody reads it and there is
a place; otherwise it stays as it was. One in both slots is asked twice, and takes as many of
the two as it has places for. Whoever sits in neither is left alone. -/
structure AskedToClose (s : Session) (o o' : Outlet) : Prop where
  away : ∀ id, (∀ role, (s.slot role).connection ≠ some id) → o'.channel id = o.channel id
  once : ∀ id role, (s.slot role).connection = some id → (s.slot role.peer).connection ≠ some id →
    ∀ c, c = o.channel id → o'.channel id =
      if c.listening = true ∧ c.queue.length < c.capacity
      then { c with accepted := c.accepted ++ [.close "room ended"] } else c
  twice : ∀ id, (∀ role, (s.slot role).connection = some id) → ∀ c, c = o.channel id →
    o'.channel id = { c with
      accepted := c.accepted ++ [.close "room ended", .close "room ended"].take c.free }

/-- It comes about by offering the request once for each slot. -/
theorem askedToClose_of_offers {s : Session} {o o' : Outlet} (sound : o.Sound)
    (offered : ∀ id, o'.channel id =
      (o.channel id).offerAll (List.replicate (s.connections.count id) (.close "room ended"))) :
    s.AskedToClose o o' := by
  -- One request for each slot, the presenter's first.
  have asked : ∀ id, o'.channel id = (o.channel id).offerAll
      ((if (s.slot .presenter).connection = some id then [.close "room ended"] else []) ++
        if (s.slot .viewer).connection = some id then [.close "room ended"] else []) := by
    intro id
    rw [offered, replicate_count_connections, Role.all, List.flatMap_cons, List.flatMap_singleton]
  constructor
  · intro id away
    rw [asked, if_neg (away _), if_neg (away _)]
    rfl
  · rintro id role held alone c rfl
    rw [← Channel.offer_eq, asked]
    cases role with
    | presenter =>
      have notViewer : (s.slot .viewer).connection ≠ some id := alone
      rw [if_pos held, if_neg notViewer]
      rfl
    | viewer =>
      have notPresenter : (s.slot .presenter).connection ≠ some id := alone
      rw [if_neg notPresenter, if_pos held]
      rfl
  · rintro id held c rfl
    rw [asked, if_pos (held _), if_pos (held _)]
    exact Channel.offerAll_eq (sound id) _

end Session

namespace Http

/-! ## Requests without an identity -/

/-- The request does not say on whose behalf it is made. The first value of the header is not
there, or some byte of it cannot stand in text, or it is all spaces and tabs. -/
def Request.Anonymous (r : Request) (header : String) : Prop :=
  r.header? header = none ∨
    ∃ value, r.header? header = some value ∧
      ((∃ b ∈ value, isTextByte b = false) ∨ ∀ b ∈ value, b = 9 ∨ b = 32)

/-- Of the bytes of a text only the tab and the space are blank. -/
theorem isBlank_of_isTextByte {b : UInt8} (isText : isTextByte b = true) :
    Text.isBlank (Char.ofNat b.toNat) = true ↔ b = 9 ∨ b = 32 := by
  have all : ∀ n < 256, isTextByte (UInt8.ofNat n) = true →
      (Text.isBlank (Char.ofNat n) = true ↔ n = 9 ∨ n = 32) := by decide +kernel
  have isByte := all b.toNat b.toNat_lt
  rw [UInt8.ofNat_toNat] at isByte
  rw [isByte isText, ← UInt8.toNat_inj, ← UInt8.toNat_inj]
  rfl

/-- A request names nobody exactly if it is anonymous. -/
theorem identity?_eq_none_iff {r : Request} {header : String} :
    r.identity? header = none ↔ r.Anonymous header := by
  unfold Request.identity? Request.Anonymous
  cases r.header? header with
  | none => simp
  | some value =>
    simp only [Option.bind_some, reduceCtorEq, Option.some.injEq, exists_eq_left', false_or]
    unfold valueText?
    by_cases isText : value.all isTextByte = true
    · have bytes : ∀ b ∈ value, isTextByte b = true := List.all_eq_true.mp isText
      have notText : ¬ ∃ b ∈ value, isTextByte b = false := by
        rintro ⟨b, mem, other⟩
        rw [bytes b mem] at other
        cases other
      -- The bytes are text, so the value is blank exactly if each of them is a space or a tab.
      have blank : (Text.trim (String.ofList (value.map fun b => Char.ofNat b.toNat))).isEmpty
          = true ↔ ∀ b ∈ value, b = 9 ∨ b = 32 := by
        rw [String.isEmpty_iff, Text.trim, String.toList_ofList, String.ofList_eq_empty_iff,
          Text.trimmed_eq_nil_iff, List.forall_mem_map]
        exact forall₂_congr fun b mem => isBlank_of_isTextByte (bytes b mem)
      rw [if_pos isText, Option.bind_some, or_iff_right notText, ← blank]
      simp
    · have notText : ∃ b ∈ value, isTextByte b = false := by
        simpa using isText
      rw [if_neg isText]
      simp [notText]

/-- **Without an identity a request learns nothing of the rooms**, and does nothing. -/
theorem handle_of_anonymous {settings : Settings} {request : Request} {route : Route}
    (isRoute : Route.ofPath? settings.root request.path = some route)
    (anonymous : request.Anonymous settings.identityHeader) :
    ∃ response, response.status = 401 ∧
      ∀ relay, handle settings relay request = (.response response, relay) := by
  have unknown := identity?_eq_none_iff.mpr anonymous
  unfold handle
  simp only [isRoute, unknown]
  split
  · by_cases head : request.method = "HEAD"
    · exact ⟨Response.unauthenticated.headOnly, rfl, fun _ => by simp [Reply.forMethod, head]⟩
    · exact ⟨Response.unauthenticated, rfl, fun _ => by simp [Reply.forMethod, head]⟩
  · exact ⟨{ Response.unauthenticated with allow := some route.allow }, rfl, fun _ => rfl⟩

/-! ## Requests to end a room -/

variable {r : Relay} {code user : String} {s : Session}

/-- The presenter is looked at first, so it does not matter who is the viewer. -/
theorem mayEnd_eq_true_iff :
    mayEnd r code user = true ↔
      ∃ s, r.find? code = some s ∧ (s.slot .presenter).identity = some user := by
  unfold mayEnd
  cases r.find? code with
  | none => simp
  | some s => simp [← Session.roleOf?_eq_presenter_iff]

/-- The response to a request to end a room that is not there, or not the user's. -/
def Response.noRoom : Response := .json 404 (errorText (.string "NOT_FOUND") "Room not found" none)

/-- **Of a room of someone else a user learns as much as of no room**, and it is left alone. -/
theorem endRoom_of_other (other : ∀ s, r.find? code = some s →
    (s.slot .presenter).identity ≠ some user) : endRoom r code user = (.noRoom, r) := by
  have mayNot : ¬ mayEnd r code user = true := by
    rw [mayEnd_eq_true_iff]
    rintro ⟨s, live, isPresenter⟩
    exact other s live isPresenter
  rw [endRoom, if_neg mayNot]
  rfl

/-- **Its presenter ends a room**: it is gone, the others stay, and whoever sits in one of its
slots is asked to close. -/
theorem endRoom_of_presenter (keyed : Relay.Keyed r.rooms) (sound : r.outlet.Sound)
    (live : r.find? code = some s) (isPresenter : (s.slot .presenter).identity = some user) :
    ∃ before after outlet, r.rooms = before ++ s :: after ∧
      (∀ x ∈ before ++ after, x.code ≠ code) ∧
      endRoom r code user = ({ status := 204 }, { r with rooms := before ++ after, outlet }) ∧
      s.AskedToClose r.outlet outlet := by
  obtain ⟨before, after, rooms, others⟩ := Relay.exists_rooms_eq keyed live
  have named := Relay.code_of_find? live
  have without := Relay.without_eq rooms (named ▸ others)
  have may : mayEnd r code user = true := mayEnd_eq_true_iff.mpr ⟨s, live, isPresenter⟩
  -- What the removal does to the channels is known from what it offers, so they stay unnamed
  -- here.
  have removed : r.remove code = (true, { r with
      rooms := before ++ after, outlet := (r.remove code).2.outlet }) := by
    rw [Relay.remove, live]
    dsimp only
    rw [← named, without]
  refine ⟨before, after, (r.remove code).2.outlet, rooms, others, ?_, ?_⟩
  · rw [endRoom, if_pos may, removed]
  · apply Session.askedToClose_of_offers sound
    intro id
    have offered := Relay.channel_perform r (d := .remove code) rfl id
    rw [Deed.offers, live] at offered
    exact offered

/-- A request of a known user to the route of a room comes to `endRoom`. -/
theorem handle_room {settings : Settings} {request : Request} {part : List Char}
    (isRoute : Route.ofPath? settings.root request.path = some (.room part))
    (isCode : pathText? part = some code) (isDelete : request.method = "DELETE")
    (isUser : request.identity? settings.identityHeader = some user) :
    handle settings r request = (.response (endRoom r code user).1, (endRoom r code user).2) := by
  unfold handle serve
  simp [isRoute, isCode, isUser, isDelete, Route.knows, Route.method, Reply.forMethod]

/-- **Requests learn nothing that is not theirs to know.** A request to a known route without an
identity is refused with status 401, by one and the same response whatever rooms there are, and
nothing happens. A request of a user to end a room is refused by one and the same response, and
nothing happens, if there is no such room and if the user is not its presenter. If the user is,
the answer is 204; the room is gone, all others are as they were, and each slot's connection has
the request to close behind all that it had accepted, unless it is full or nobody reads it. -/
theorem discloses_own_rooms_only (limits : Limits) (candidates : Nat → String)
    (events : List Signaling.World.Event) {r : Relay}
    (reached : r = ((Signaling.World.start limits candidates).run events).relay) :
    (∀ (settings : Settings) (request : Request) (route : Route),
      Route.ofPath? settings.root request.path = some route →
      request.Anonymous settings.identityHeader →
      ∃ response, response.status = 401 ∧
        ∀ relay, handle settings relay request = (.response response, relay)) ∧
    (∀ (settings : Settings) (request : Request) (part : List Char) (code user : String),
      Route.ofPath? settings.root request.path = some (.room part) → pathText? part = some code →
      request.method = "DELETE" → request.identity? settings.identityHeader = some user →
      handle settings r request =
        (.response (endRoom r code user).1, (endRoom r code user).2)) ∧
    ∀ code user : String,
      (r.find? code = none → endRoom r code user = (.noRoom, r)) ∧
      ∀ s, r.find? code = some s →
        ((s.slot .presenter).identity ≠ some user → endRoom r code user = (.noRoom, r)) ∧
        ((s.slot .presenter).identity = some user →
          ∃ before after outlet, r.rooms = before ++ s :: after ∧
            (∀ x ∈ before ++ after, x.code ≠ code) ∧
            endRoom r code user =
              ({ status := 204 }, { r with rooms := before ++ after, outlet }) ∧
            s.AskedToClose r.outlet outlet) := by
  have keyed : Relay.Keyed r.rooms := by
    rw [reached]
    exact Signaling.World.keyed_run limits candidates events
  have sound : r.outlet.Sound := by
    rw [reached]
    exact Signaling.World.sound_run limits candidates events
  refine ⟨fun settings request route => handle_of_anonymous,
    fun settings request part code user => handle_room, fun code user => ⟨fun gone => ?_, ?_⟩⟩
  · apply endRoom_of_other
    intro s live
    rw [gone] at live
    cases live
  · intro s live
    refine ⟨fun another => endRoom_of_other fun s' live' => ?_,
      endRoom_of_presenter keyed sound live⟩
    obtain rfl := Option.some.inj (live.symm.trans live')
    exact another

/-- A room with both connections, the viewer's full. -/
def occupied : List Signaling.World.Event :=
  [.create "host", .claim "room" "guest", .connect 4, .connect 1, .join "room" .presenter ⟨0⟩,
    .join "room" .viewer ⟨1⟩, .send "room" .viewer ⟨.offer, .null, "video"⟩]

/-- A request to end that room, made by whoever the bytes name. -/
def endRequest (identity : List UInt8) : Request :=
  { method := "DELETE"
    target := "/watchparty/api/rooms/r%6fom"
    headers := [("X-Authenticated-User", identity)] }

/-- Spaces and tabs name nobody, and the guest learns nothing. The host ends the room: its own
connection is told so, and the guest's, which is full, is not. -/
theorem discloses_own_rooms_only_occupied :
    let r := ((Signaling.World.start ⟨4, 2⟩ fun _ => "room").run occupied).relay
    (endRequest [32, 9]).Anonymous Settings.default.identityHeader ∧
    (∃ response, response.status = 401 ∧
      ∀ relay, handle .default relay (endRequest [32, 9]) = (.response response, relay)) ∧
    handle .default r (endRequest "guest".toUTF8.toList) = (.response .noRoom, r) ∧
    ∃ s outlet, r.find? "room" = some s ∧ (s.slot .presenter).identity = some "host" ∧
      handle .default r (endRequest "host".toUTF8.toList) =
        (.response { status := 204 }, { r with rooms := [], outlet }) ∧
      outlet.channel ⟨0⟩ = ⟨4, [.close "room ended"], 0, true⟩ ∧
      outlet.channel ⟨1⟩ = ⟨1, [.envelope ⟨.offer, .null, "video"⟩], 0, true⟩ := by
  intro r
  obtain ⟨anonymous, known, answers⟩ := discloses_own_rooms_only ⟨4, 2⟩ (fun _ => "room") occupied
    (show r = _ from rfl)
  have isRoute : ∀ identity, Route.ofPath? Settings.default.root (endRequest identity).path =
      some (.room "r%6fom".toList) := by
    intro identity
    show Route.ofPath? Settings.default.root (endRequest []).path = _
    decide +kernel
  have isCode : pathText? "r%6fom".toList = some "room" := by decide +kernel
  have blank : (endRequest [32, 9]).Anonymous Settings.default.identityHeader :=
    Or.inr ⟨[32, 9], by decide +kernel, Or.inr (by decide +kernel)⟩
  obtain ⟨s, live, isPresenter⟩ :
      ∃ s, r.find? "room" = some s ∧ (s.slot .presenter).identity = some "host" := ⟨_, rfl, rfl⟩
  -- The guest sits in the room and is refused all the same.
  obtain ⟨-, inside⟩ := answers "room" "guest"
  obtain ⟨-, mine⟩ := answers "room" "host"
  obtain ⟨before, after, outlet, rooms, -, ended, asked⟩ := (mine s live).2 isPresenter
  refine ⟨blank, anonymous _ _ _ (isRoute _) blank, ?_, s, outlet, live, isPresenter, ?_, ?_, ?_⟩
  · have isGuest : (endRequest "guest".toUTF8.toList).identity? Settings.default.identityHeader =
        some "guest" := by decide +kernel
    rw [known _ _ _ _ _ (isRoute _) isCode rfl isGuest, (inside s live).1 (by rw [isPresenter]; decide)]
  · have alone : before ++ after = [] := by
      have one := congrArg List.length rooms
      have single : r.rooms.length = 1 := rfl
      rw [single, List.length_append, List.length_cons] at one
      rw [List.append_eq_nil_iff, ← List.length_eq_zero_iff, ← List.length_eq_zero_iff]
      omega
    have isHost : (endRequest "host".toUTF8.toList).identity? Settings.default.identityHeader =
        some "host" := by decide +kernel
    rw [known _ _ _ _ _ (isRoute _) isCode rfl isHost, ended, alone]
  · cases live
    rw [asked.once ⟨0⟩ .presenter rfl (by decide) _ rfl, if_pos (by decide)]
    rfl
  · cases live
    rw [asked.once ⟨1⟩ .viewer rfl (by decide) _ rfl, if_neg (by decide)]
    rfl

end Http

end Rendezvous
