import Rendezvous.Proofs.Session.Memory

/-!
# The form of a session

Whatever has happened to a session, nothing waits for a role that has a connection, no
queue and no cache has outgrown its limit, every cached envelope is of the kind of its cache
and filed under its own track, and the room is still that of its presenter
(`formed_run`).

The queues and what is in the caches are known from what a side remembers of its run. What
is added here are the sizes of the caches: an envelope takes a new place only if its track is
unknown, and then only if there is room (`length_remember_le`).
-/

namespace Rendezvous

namespace TrackCache

/-- The cache keeps to its limit and to its kind, and files each envelope under its track. -/
structure Formed (kind : Kind) (limit : Nat) (c : TrackCache) : Prop where
  bounded : c.entries.length ≤ limit
  kinds : ∀ e ∈ c.entries, e.kind = kind
  filed : ∀ track e, c.get? track = some e ↔ e ∈ c.entries ∧ e.track = track

/-- A cache grows by one entry at most. -/
theorem length_place_le (e : Envelope) (entries : List Envelope) :
    (place e entries).length ≤ entries.length + 1 := by
  induction entries with
  | nil => simp [place]
  | cons y rest ih =>
    unfold place
    split
    · simp
    · split
      · simp
      · simp only [List.length_cons]
        omega

/-- An envelope about a known track takes the place of the former one. -/
theorem length_place_of_known {e : Envelope} {entries : List Envelope}
    (ordered : entries.Pairwise fun a b => a.track < b.track)
    (known : ∃ x ∈ entries, x.track = e.track) :
    (place e entries).length = entries.length := by
  induction entries with
  | nil =>
    obtain ⟨x, mem, -⟩ := known
    exact absurd mem List.not_mem_nil
  | cons y rest ih =>
    obtain ⟨x, mem, same⟩ := known
    obtain ⟨above, orderedRest⟩ := List.pairwise_cons.mp ordered
    have x_rest : x ≠ y → x ∈ rest := fun differ => (List.mem_cons.mp mem).resolve_left differ
    unfold place
    split
    next before =>
      -- Then the track would lie before all others and not be known.
      exfalso
      by_cases first : x = y
      · rw [← same, first] at before
        exact String.lt_irrefl _ before
      · have after : y.track < x.track := above x (x_rest first)
        rw [same] at after
        exact String.lt_asymm before after
    next =>
      split
      · simp
      next differ =>
        have later : x ∈ rest := by
          apply x_rest
          rintro rfl
          exact differ same.symm
        have kept := ih orderedRest ⟨x, later, same⟩
        simp only [List.length_cons, kept]

/-- A cache keeps to its limit: a new place is taken only if there is one left. -/
theorem length_remember_le {kind : Kind} {c : TrackCache} (sound : c.Sound kind) {limit : Nat}
    (bounded : c.entries.length ≤ limit) (e : Envelope) :
    (c.remember limit e).entries.length ≤ limit := by
  by_cases admitted : c.admits limit e
  · rw [remember_of_admits admitted]
    rcases admitted with known | room
    · obtain ⟨x, found⟩ := Option.isSome_iff_exists.mp known
      have mem : x ∈ c.entries := List.mem_of_find?_eq_some found
      have same := length_place_of_known sound.ordered ⟨x, mem, track_of_get? found⟩
      show (place e c.entries).length ≤ limit
      omega
    · have grown := length_place_le e c.entries
      show (place e c.entries).length ≤ limit
      omega
  · rw [remember_of_not_admits admitted]
    exact bounded

/-- A sound cache within its limit is in form. -/
theorem formed_of_sound {kind : Kind} {c : TrackCache} (sound : c.Sound kind) {limit : Nat}
    (bounded : c.entries.length ≤ limit) : c.Formed kind limit where
  bounded := bounded
  kinds := sound.kinds
  filed track e := by
    constructor
    · intro found
      exact ⟨List.mem_of_find?_eq_some found, track_of_get? found⟩
    · rintro ⟨mem, rfl⟩
      exact (mem_entries_iff sound).mp mem

end TrackCache

/-! ## One side -/

namespace Side

/-- What holds of a side at any time. -/
structure Formed (limits : Limits) (side : Side) : Prop where
  /-- Nothing waits for a side that has a connection. -/
  drained : side.slot.connection.isSome → side.pending = []
  pending : side.pending.length ≤ max 1 limits.pending
  offers : side.offers.Formed .offer limits.tracks
  answers : side.answers.Formed .answer limits.tracks
  /-- Candidates are not cached. -/
  negotiated : ∀ e ∈ side.cached, e.kind ≠ .candidate

/-- The side has gone through some run, and its caches are within the limits. -/
structure Kept (limits : Limits) (side : Side) : Prop where
  follows : ∃ received sent, side.Follows limits received sent
  offers : side.offers.entries.length ≤ limits.tracks
  answers : side.answers.entries.length ≤ limits.tracks

variable {limits : Limits} {side : Side}

/-- A side that has gone through a run within its limits is in form. -/
theorem Kept.formed (h : side.Kept limits) : side.Formed limits := by
  obtain ⟨received, sent, follows⟩ := h.follows
  refine ⟨fun live => ?_, follows.bounded, ?_, ?_, fun e mem isCandidate => ?_⟩
  · apply follows.drained
    intro none
    rw [none] at live
    cases live
  · exact TrackCache.formed_of_sound follows.caches.offers h.offers
  · exact TrackCache.formed_of_sound follows.caches.answers h.answers
  · have found := (mem_cached_iff follows.caches).mp mem
    rw [isCandidate] at found
    cases found

/-- Both caches keep to the limit when a message is remembered. -/
theorem kept_remember_sizes (h : side.Kept limits) (e : Envelope) :
    (side.remember limits.tracks e).offers.entries.length ≤ limits.tracks ∧
    (side.remember limits.tracks e).answers.entries.length ≤ limits.tracks := by
  obtain ⟨received, sent, follows⟩ := h.follows
  unfold remember
  cases e.kind with
  | offer => exact ⟨TrackCache.length_remember_le follows.caches.offers h.offers e, h.answers⟩
  | answer => exact ⟨h.offers, TrackCache.length_remember_le follows.caches.answers h.answers e⟩
  | candidate => exact ⟨h.offers, h.answers⟩

/-- What an event makes of a side is within the limits again. -/
theorem kept_step (h : side.Kept limits) (role : Role) (ev : Session.Event) :
    (side.step limits role ev).Kept limits := by
  obtain ⟨received, sent, follows⟩ := h.follows
  have after : ∃ received sent, (side.step limits role ev).Follows limits received sent :=
    ⟨_, _, follows_step follows ev⟩
  rcases caches_step limits role side ev with ⟨e, isSent⟩ | ⟨offers, answers⟩
  · have sizes := kept_remember_sizes h e
    rw [← isSent] at sizes
    exact ⟨after, sizes.1, sizes.2⟩
  · refine ⟨after, ?_, ?_⟩
    · rw [offers]
      exact h.offers
    · rw [answers]
      exact h.answers

/-- No event takes the presenter's identity away or gives it to another. -/
theorem presenter_step (limits : Limits) (side : Side) (ev : Session.Event) :
    (side.step limits .presenter ev).slot.identity = side.slot.identity := by
  cases ev with
  | relay destination e =>
    rw [step]
    split
    · rfl
    · rw [slot_remember]
  | attach r id | detach r id =>
    rw [step]
    split <;> rfl
  | claim | clear | close | connect | take | drop | wait => rfl

end Side

/-! ## Runs -/

namespace Session

/-- What holds of a presenter's room at any time. -/
structure Formed (presenter : String) (limits : Limits) (s : Session) : Prop where
  presenter : (s.slot .presenter).identity = some presenter
  sides : ∀ role, (s.side role).Formed limits

/-- Both sides have gone through some run within the limits. -/
structure Kept (limits : Limits) (s : Session) : Prop where
  sides : ∀ role, (s.side role).Kept limits
  within : s.limits = limits

theorem kept_start (code presenter : String) (limits : Limits) (now : Instant) :
    (start code presenter limits now).Kept limits := by
  refine ⟨fun role => ⟨⟨[], [], follows_start code presenter limits now role⟩, ?_, ?_⟩, rfl⟩
  · cases role <;> exact Nat.zero_le _
  · cases role <;> exact Nat.zero_le _

/-- What one event keeps of each side, it keeps of a session. -/
theorem kept_step {limits : Limits} {st : Stage} (h : st.session.Kept limits) (ev : Event) :
    (st.step ev).session.Kept limits := by
  refine ⟨fun role => ?_, (limits_step st ev).trans h.within⟩
  rw [side_step, h.within]
  exact Side.kept_step (h.sides role) role ev

/-- The two sides are kept one by one, since each of them runs by itself. -/
theorem kept_run {limits : Limits} {st : Stage} (h : st.session.Kept limits)
    (events : List Event) : (st.run events).session.Kept limits := by
  refine ⟨fun role => ?_, (limits_run st events).trans h.within⟩
  apply side_run_of_step (h.sides role)
  intro side ev kept
  rw [h.within]
  exact Side.kept_step kept role ev

/-- No event gives the room to another presenter. -/
theorem presenter_run (st : Stage) (events : List Event) :
    ((st.run events).session.slot .presenter).identity
      = (st.session.slot .presenter).identity := by
  let isHost (side : Side) : Prop := side.slot.identity = (st.session.slot .presenter).identity
  apply side_run_of_step (P := isHost) rfl
  intro side ev same
  exact (Side.presenter_step _ side ev).trans same

/-- **A session stays in form**: whatever happens to it, nothing waits for a role that has a
connection, queues and caches keep to their limits, every cached envelope is an offer or an
answer filed under its own track, and the presenter is the one that the room was made for. -/
theorem formed_run (code presenter : String) (limits : Limits) (now : Instant)
    (events : List Event) :
    ((Stage.start code presenter limits now).run events).session.Formed presenter limits := by
  have begins : (Stage.start code presenter limits now).session.Kept limits := kept_start ..
  have kept := kept_run begins events
  exact ⟨presenter_run _ events, fun role => (kept.sides role).formed⟩

end Session

end Rendezvous
