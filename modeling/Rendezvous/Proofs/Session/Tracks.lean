import Rendezvous.Proofs.Session.Form

/-!
# The tracks that are cached

A cache takes whatever is about a track that it knows, and takes a track that is new to it as
long as it is not full. It never gives up a track. So of all the tracks that a side has sent
something of one kind about, a cache knows the first ones, as many as there may be, and of each
of them it holds the latest envelope (`cached_by_history`).

That what is held is the latest is known from what a side remembers of its run. What is added
here is which tracks are known at all (`TrackCache.Covers`). Whether a new one is taken depends
on the number of entries alone, so the invariant has to count them as well.
-/

namespace Rendezvous

namespace Envelope

/-- The tracks that envelopes of a kind are about, each one once, in the order in which they
first come. -/
def tracks (k : Kind) (es : List Envelope) : List String :=
  ((es.filter (·.kind == k)).map (·.track)).eraseDups

theorem tracks_snoc_of_ne {k : Kind} {e : Envelope} (other : e.kind ≠ k) (es : List Envelope) :
    tracks k (es ++ [e]) = tracks k es := by
  rw [tracks, List.filter_append, List.filter_cons_of_neg (by simpa using other), List.filter_nil,
    List.append_nil, tracks]

/-- A message of this kind brings its track, unless that is there already. -/
theorem tracks_snoc (es : List Envelope) (e : Envelope) :
    tracks e.kind (es ++ [e]) =
      if e.track ∈ tracks e.kind es then tracks e.kind es else tracks e.kind es ++ [e.track] := by
  have own : [e].filter (·.kind == e.kind) = [e] :=
    List.filter_cons_of_pos (beq_self_eq_true e.kind)
  simp only [tracks, List.filter_append, own, List.map_append, List.eraseDups_append,
    List.mem_eraseDups]
  generalize (es.filter (·.kind == e.kind)).map (·.track) = before
  show _ ++ (List.filter (fun track => !before.elem track) [e.track]).eraseDups = _
  split
  next known =>
    rw [List.filter_cons_of_neg (by simpa using known)]
    exact List.append_nil _
  next new =>
    rw [List.filter_cons_of_pos (by simpa using new)]
    rfl

end Envelope

namespace TrackCache

/-- An envelope about an unknown track takes a place of its own. -/
theorem length_place_of_unknown {e : Envelope} {entries : List Envelope}
    (unknown : ∀ x ∈ entries, x.track ≠ e.track) :
    (place e entries).length = entries.length + 1 := by
  induction entries with
  | nil => rfl
  | cons y rest ih =>
    have differ : e.track ≠ y.track := (unknown y List.mem_cons_self).symm
    have later := ih fun x mem => unknown x (List.mem_cons_of_mem y mem)
    unfold place
    rw [if_neg differ]
    split
    · rfl
    · simp only [List.length_cons, later]

/-- What was sent of the kind is known by its first tracks, as many as there may be. -/
structure Covers (kind : Kind) (limit : Nat) (sent : List Envelope) (c : TrackCache) : Prop where
  knows : ∀ track, (c.get? track).isSome = true ↔ track ∈ (Envelope.tracks kind sent).take limit
  count : c.entries.length = min limit (Envelope.tracks kind sent).length

/-- Nothing was sent and nothing is cached. -/
theorem covers_empty (kind : Kind) (limit : Nat) : empty.Covers kind limit [] where
  knows track := by
    show false = true ↔ track ∈ List.take limit []
    rw [List.take_nil]
    exact ⟨nofun, nofun⟩
  count := (Nat.min_zero limit).symm

section
variable {kind : Kind} {limit : Nat} {sent : List Envelope} {c : TrackCache} {e : Envelope}

theorem Covers.snoc_of_ne (h : c.Covers kind limit sent) (other : e.kind ≠ kind) :
    c.Covers kind limit (sent ++ [e]) := by
  constructor
  · rw [Envelope.tracks_snoc_of_ne other]
    exact h.knows
  · rw [Envelope.tracks_snoc_of_ne other]
    exact h.count

/-- **A cache takes an envelope exactly if its track is then one of the first.** -/
theorem Covers.admits_iff (h : c.Covers e.kind limit sent) :
    c.admits limit e ↔ e.track ∈ (Envelope.tracks e.kind (sent ++ [e])).take limit := by
  rw [admits, h.knows, h.count, Envelope.tracks_snoc]
  split
  next before =>
    -- A track that is not new is no reason to grow.
    refine or_iff_left_of_imp fun room => ?_
    have all : (Envelope.tracks e.kind sent).length ≤ limit := by omega
    rw [List.take_of_length_le all]
    exact before
  next new =>
    rw [or_iff_right fun taken => new (List.mem_of_mem_take taken)]
    generalize Envelope.tracks e.kind sent = tracks at new ⊢
    rw [List.take_append, List.mem_append,
      or_iff_right fun taken => new (List.mem_of_mem_take taken)]
    constructor
    · intro room
      rw [List.take_of_length_le (by simp only [List.length_singleton]; omega)]
      exact List.mem_singleton_self e.track
    · intro taken
      have left := List.length_pos_of_mem taken
      rw [List.length_take] at left
      omega

/-- What is sent about one track leaves all others where they are. -/
theorem mem_take_tracks_snoc {track : String} (other : track ≠ e.track) :
    track ∈ (Envelope.tracks e.kind (sent ++ [e])).take limit ↔
      track ∈ (Envelope.tracks e.kind sent).take limit := by
  rw [Envelope.tracks_snoc]
  split
  · rfl
  · rw [List.take_append, List.mem_append, or_iff_left]
    exact fun mem => other (List.mem_singleton.mp (List.mem_of_mem_take mem))

/-- A cache has as many entries as there are tracks, up to its limit. -/
theorem Covers.length_remember (sound : c.Sound e.kind) (h : c.Covers e.kind limit sent) :
    (c.remember limit e).entries.length =
      min limit (Envelope.tracks e.kind (sent ++ [e])).length := by
  have size := h.count
  have known := h.knows e.track
  by_cases admitted : c.admits limit e
  · rw [remember_of_admits admitted]
    show (place e c.entries).length = _
    rw [Envelope.tracks_snoc]
    -- A known track is overwritten in place. A new one makes the cache longer and is new in the
    -- list of tracks too, since with room left the cache knows all of them.
    cases found : c.get? e.track with
    | some x =>
      rw [found] at known
      rw [if_pos (List.mem_of_mem_take (known.mp rfl)), ← size]
      exact length_place_of_known sound.ordered
        ⟨x, List.mem_of_find?_eq_some found, track_of_get? found⟩
    | none =>
      have room : c.entries.length < limit := admitted.resolve_left (by rw [found]; exact nofun)
      rw [found, List.take_of_length_le (by omega)] at known
      have new : e.track ∉ Envelope.tracks e.kind sent := fun mem => nomatch known.mpr mem
      have grown := length_place_of_unknown fun x mem same =>
        List.find?_eq_none.mp found x mem (beq_iff_eq.mpr same)
      rw [if_neg new, grown, List.length_append, List.length_singleton]
      omega
  · rw [remember_of_not_admits admitted, Envelope.tracks_snoc]
    have full : limit ≤ c.entries.length := Nat.le_of_not_lt fun room => admitted (Or.inr room)
    split
    · exact size
    · rw [List.length_append]
      omega

/-- A cache covers one more message of its kind once it has remembered it. -/
theorem Covers.remember (sound : c.Sound kind) (h : c.Covers kind limit sent)
    (own : e.kind = kind) : (c.remember limit e).Covers kind limit (sent ++ [e]) := by
  subst own
  refine ⟨fun track => ?_, h.length_remember sound⟩
  by_cases same : track = e.track
  · rw [same, get?_remember_self, ← h.admits_iff]
    split
    next admitted => exact ⟨fun _ => admitted, fun _ => rfl⟩
    next turnedAway => exact ⟨nofun, fun admitted => absurd admitted turnedAway⟩
  · rw [get?_remember_ne (Ne.symm same), mem_take_tracks_snoc same]
    exact h.knows track

end

end TrackCache

/-! ## One side -/

namespace Side

/-- Both caches of a side know the first tracks of what it sent. -/
structure Covers (limits : Limits) (sent : List Envelope) (side : Side) : Prop where
  offers : side.offers.Covers .offer limits.tracks sent
  answers : side.answers.Covers .answer limits.tracks sent

variable {limits : Limits} {sent : List Envelope} {side : Side}

/-- Of the two caches, the one of the message's kind goes on, and to the other nothing has
happened. -/
theorem covers_remember (caches : side.CachesSound) (h : side.Covers limits sent) (e : Envelope) :
    (side.remember limits.tracks e).Covers limits (sent ++ [e]) := by
  unfold remember
  cases kind : e.kind with
  | offer =>
    have noAnswer : e.kind ≠ .answer := by rw [kind]; decide
    exact ⟨h.offers.remember caches.offers kind, h.answers.snoc_of_ne noAnswer⟩
  | answer =>
    have noOffer : e.kind ≠ .offer := by rw [kind]; decide
    exact ⟨h.offers.snoc_of_ne noOffer, h.answers.remember caches.answers kind⟩
  | candidate =>
    have noOffer : e.kind ≠ .offer := by rw [kind]; decide
    have noAnswer : e.kind ≠ .answer := by rw [kind]; decide
    exact ⟨h.offers.snoc_of_ne noOffer, h.answers.snoc_of_ne noAnswer⟩

/-- **Each event keeps what the caches know**, of everything sent with it. -/
theorem covers_step {role : Role} (caches : side.CachesSound) (h : side.Covers limits sent)
    (ev : Session.Event) :
    (side.step limits role ev).Covers limits (sent ++ (ev.message? role.peer).toList) := by
  cases isSent : ev.message? role.peer with
  | some e =>
    rw [step_of_sent isSent]
    exact covers_remember caches h e
  | none =>
    obtain ⟨offers, answers⟩ := caches_of_unsent isSent limits side
    rw [Option.toList_none, List.append_nil]
    constructor
    · rw [offers]
      exact h.offers
    · rw [answers]
      exact h.answers

/-- A kind and a track are looked up with success exactly if the track is one of the first. -/
theorem Covers.isSome_cached?_iff (h : side.Covers limits sent) {k : Kind}
    (negotiates : k ≠ .candidate) (track : String) :
    (side.cached? k track).isSome = true ↔
      track ∈ (Envelope.tracks k sent).take limits.tracks := by
  cases k with
  | offer => exact h.offers.knows track
  | answer => exact h.answers.knows track
  | candidate => exact absurd rfl negotiates

/-- Only what a side sends of a kind about a track changes what is found there. -/
theorem cached?_step {role : Role} {ev : Session.Event} {k : Kind} {track : String}
    (elsewhere : ∀ e, ev.message? role.peer = some e → e.isAbout k track = false)
    (limits : Limits) (side : Side) :
    (side.step limits role ev).cached? k track = side.cached? k track := by
  cases isSent : ev.message? role.peer with
  | some e =>
    rw [step_of_sent isSent]
    exact cached?_remember_of_not_isAbout (elsewhere e isSent) side limits.tracks
  | none =>
    obtain ⟨offers, answers⟩ := caches_of_unsent isSent limits side
    unfold cached?
    rw [offers, answers]

end Side

/-! ## Runs -/

namespace Session

/-- After every run the caches of a side cover what that side has sent. -/
theorem covers_run (code presenter : String) (limits : Limits) (now : Instant)
    (events : List Event) (role : Role) :
    (((Stage.start code presenter limits now).run events).session.side role).Covers limits
      (relayedTo role.peer events) := by
  induction events using List.reverseRecOn with
  | nil => cases role <;> exact ⟨TrackCache.covers_empty .., TrackCache.covers_empty ..⟩
  | append_singleton events ev ih =>
    have caches := (follows_run code presenter limits now events role).caches
    rw [Stage.run_snoc, side_step, limits_run, relayedTo_snoc]
    exact Side.covers_step caches ih ev

/-- **What is cached is told by what was sent.** After any run, an offer or an answer of a side is
cached for a track exactly if it is the last one that the side sent about it and the track is one
of the first that the side sent any of this kind about, as many as may be cached. For every other
track there is none. And whatever happens next, only a message of that side, of that kind and
about that track changes what is cached for it. -/
theorem cached_by_history (code presenter : String) (limits : Limits) (now : Instant)
    (events : List Event) {st : Stage}
    (reached : st = (Stage.start code presenter limits now).run events) (sender : Role) {k : Kind}
    (negotiates : k ≠ .candidate) (track : String) :
    let sent := relayedTo sender.peer events
    let known := (Envelope.tracks k sent).take limits.tracks
    (∀ e, st.session.cached? sender k track = some e ↔
      track ∈ known ∧ Envelope.latest k track sent = some e) ∧
    (st.session.cached? sender k track = none ↔ track ∉ known) ∧
    ∀ ev : Event, (∀ e, ev.message? sender.peer = some e → e.isAbout k track = false) →
      (st.step ev).session.cached? sender k track = st.session.cached? sender k track := by
  intro sent known
  subst reached
  have follows := follows_run code presenter limits now events sender
  have covers := covers_run code presenter limits now events sender
  have isKnown := covers.isSome_cached?_iff negotiates track
  refine ⟨fun e => ⟨fun found => ?_, ?_⟩, ?_, fun ev elsewhere => ?_⟩
  · have found' : Side.cached? _ k track = some e := found
    exact ⟨isKnown.mp (by rw [found']; rfl), follows.latest found⟩
  · rintro ⟨mem, last⟩
    -- Something is cached for a known track, and what is cached is the latest.
    obtain ⟨x, found⟩ := Option.isSome_iff_exists.mp (isKnown.mpr mem)
    have newest := follows.latest found
    rw [last] at newest
    rw [newest]
    exact found
  · rw [← not_iff_not.mpr isKnown, Option.not_isSome_iff_eq_none]
    rfl
  · show Side.cached? _ k track = Side.cached? _ k track
    rw [side_step]
    exact Side.cached?_step elsewhere _ _

/-- Two tracks are cached of each kind. A third one comes while the viewer's connection is full,
and then the first one again; the viewer sends something of its own, and leaves. -/
def outgrown : List Event :=
  [.relay .viewer ⟨.offer, .bool false, "b"⟩, .relay .viewer ⟨.offer, .null, "a"⟩, .connect 1,
    .attach .viewer ⟨0⟩, .relay .viewer ⟨.offer, .null, "c"⟩, .relay .viewer ⟨.answer, .null, "c"⟩,
    .relay .viewer ⟨.offer, .bool true, "b"⟩, .relay .presenter ⟨.offer, .null, "c"⟩,
    .detach .viewer ⟨0⟩]

/-- The third track of the offers finds no place. The first one has its newest offer, and keeps
it when the third is sent once more. -/
theorem cached_by_history_outgrown :
    let st := (Stage.start "room" "host" ⟨4, 2⟩ 0).run outgrown
    let sent := relayedTo .viewer outgrown
    Envelope.tracks .offer sent = ["b", "a", "c"] ∧
    st.session.cached? .presenter .offer "b" = some ⟨.offer, .bool true, "b"⟩ ∧
    st.session.cached? .presenter .offer "c" = none ∧
    st.session.cached? .presenter .answer "c" = some ⟨.answer, .null, "c"⟩ ∧
    (st.step (.relay .viewer ⟨.offer, .bool true, "c"⟩)).session.cached? .presenter .offer "b" =
      some ⟨.offer, .bool true, "b"⟩ := by
  intro st sent
  obtain ⟨first, -, kept⟩ := cached_by_history "room" "host" ⟨4, 2⟩ 0 outgrown
    (show st = _ from rfl) .presenter (k := .offer) (by decide) "b"
  obtain ⟨-, third, -⟩ := cached_by_history "room" "host" ⟨4, 2⟩ 0 outgrown
    (show st = _ from rfl) .presenter (k := .offer) (by decide) "c"
  obtain ⟨answer, -, -⟩ := cached_by_history "room" "host" ⟨4, 2⟩ 0 outgrown
    (show st = _ from rfl) .presenter (k := .answer) (by decide) "c"
  have cached := (first ⟨.offer, .bool true, "b"⟩).mpr ⟨by decide, rfl⟩
  refine ⟨by decide, cached, third.mpr (by decide), (answer _).mpr ⟨by decide, rfl⟩, ?_⟩
  rw [kept, cached]
  rintro e ⟨⟩
  decide

end Session

end Rendezvous
