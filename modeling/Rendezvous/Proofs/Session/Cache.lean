import Rendezvous.Proofs.Sameness
import Rendezvous.Proofs.Session.Side

/-!
# The caches of a side

A cache is a map from tracks to envelopes that is kept as a list in rising order of
tracks. Its whole interface is what remembering an envelope does to a look-up
(`get?_remember_self`, `get?_remember_ne`) and that a sound cache holds an envelope
exactly if looking up its track finds it (`mem_entries_iff`).

The last section says the same of a side, which keeps one cache of offers and one of
answers: `mem_cached_iff` is what replaying the caches relies on, since it leaves no
room for an older envelope of the same kind and track.
-/

namespace Rendezvous

namespace TrackCache

/-- A cache of one kind, in rising order of tracks. -/
structure Sound (kind : Kind) (c : TrackCache) : Prop where
  ordered : c.entries.Pairwise fun a b => a.track < b.track
  kinds : ∀ e ∈ c.entries, e.kind = kind

theorem sound_empty (kind : Kind) : empty.Sound kind :=
  ⟨List.Pairwise.nil, fun _ h => absurd h List.not_mem_nil⟩

/-- Placing an envelope brings in no other one. -/
theorem mem_of_mem_place {e x : Envelope} {entries : List Envelope} (h : x ∈ place e entries) :
    x = e ∨ x ∈ entries := by
  induction entries with
  | nil => exact Or.inl (List.mem_singleton.mp h)
  | cons y rest ih =>
    unfold place at h
    split at h
    next => exact List.mem_cons.mp h
    next =>
      split at h
      next =>
        rcases List.mem_cons.mp h with new | old
        · exact Or.inl new
        · exact Or.inr (List.mem_cons_of_mem _ old)
      next =>
        rcases List.mem_cons.mp h with rfl | later
        · exact Or.inr List.mem_cons_self
        · exact (ih later).imp_right (List.mem_cons_of_mem _)

/-- Entries stay in the order of their tracks. -/
theorem ordered_place {entries : List Envelope}
    (ordered : entries.Pairwise fun a b => a.track < b.track) (e : Envelope) :
    (place e entries).Pairwise fun a b => a.track < b.track := by
  induction entries with
  | nil => exact List.pairwise_singleton ..
  | cons y rest ih =>
    obtain ⟨above, orderedRest⟩ := List.pairwise_cons.mp ordered
    unfold place
    split
    next before =>
      refine List.pairwise_cons.mpr ⟨fun x h => ?_, ordered⟩
      rcases List.mem_cons.mp h with rfl | later
      · exact before
      · exact String.lt_trans before (above x later)
    next notBefore =>
      split
      next same => exact List.pairwise_cons.mpr ⟨fun x h => same ▸ above x h, orderedRest⟩
      next differ =>
        -- Neither before `y` nor in its place, so somewhere behind it.
        refine List.pairwise_cons.mpr ⟨fun x h => ?_, ih orderedRest⟩
        rcases mem_of_mem_place h with rfl | later
        · by_contra notAfter
          exact differ (String.le_antisymm (String.not_lt.mp notAfter) (String.not_lt.mp notBefore))
        · exact above x later

/-- Looked up by track, an envelope that was placed is found under its own, and under all others
what was there before. -/
theorem find?_place (e : Envelope) (entries : List Envelope) (track : String) :
    (place e entries).find? (·.track == track) =
      if e.track = track then some e else entries.find? (·.track == track) := by
  induction entries with
  | nil =>
    rw [place, List.find?_singleton]
    simp only [beq_iff_eq]
    rfl
  | cons y rest ih =>
    unfold place
    split
    next =>
      rw [List.find?_cons]
      split
      next found => rw [if_pos (eq_of_beq found)]
      next missed => rw [if_neg (beq_eq_false_iff_ne.mp missed)]
    next =>
      split
      next same =>
        rw [List.find?_cons, List.find?_cons, same]
        split
        next found => rw [if_pos (eq_of_beq found)]
        next missed => rw [if_neg (beq_eq_false_iff_ne.mp missed)]
      next differ =>
        -- The new envelope goes further down, so this entry keeps its place in front of it.
        rw [List.find?_cons, List.find?_cons, ih]
        split
        next found => rw [if_neg fun same => differ (same.trans (eq_of_beq found).symm)]
        next => rfl

/-- A sound cache holds an envelope exactly if looking up its track finds it. -/
theorem mem_entries_iff {kind : Kind} {c : TrackCache} (sound : c.Sound kind) {e : Envelope} :
    e ∈ c.entries ↔ c.get? e.track = some e := by
  constructor
  · obtain ⟨entries⟩ := c
    have ordered : entries.Pairwise fun a b => a.track < b.track := sound.ordered
    clear sound
    intro h
    show entries.find? (·.track == e.track) = some e
    induction entries with
    | nil => exact absurd h List.not_mem_nil
    | cons y rest ih =>
      obtain ⟨above, orderedRest⟩ := List.pairwise_cons.mp ordered
      rw [List.find?_cons]
      rcases List.mem_cons.mp h with rfl | later
      · rw [beq_self_eq_true]
      · -- Tracks rise strictly, so the first entry is about another one.
        rw [beq_false_of_ne (String.ne_of_lt (above e later))]
        exact ih orderedRest later
  · exact fun h => List.mem_of_find?_eq_some h

/-- An envelope that is there already changes nothing, for it comes to the same place. -/
theorem place_of_mem {e : Envelope} {entries : List Envelope}
    (ordered : entries.Pairwise fun a b => a.track < b.track) (h : e ∈ entries) :
    place e entries = entries := by
  induction entries with
  | nil => exact absurd h List.not_mem_nil
  | cons y rest ih =>
    obtain ⟨above, orderedRest⟩ := List.pairwise_cons.mp ordered
    unfold place
    rcases List.mem_cons.mp h with rfl | later
    · rw [if_neg (String.lt_irrefl e.track), if_pos rfl]
    · have before : y.track < e.track := above e later
      rw [if_neg (String.lt_asymm before), if_neg (String.ne_of_lt before).symm,
        ih orderedRest later]

/-- What is filed under a track is about that track. -/
theorem track_of_get? {c : TrackCache} {track : String} {e : Envelope}
    (h : c.get? track = some e) : e.track = track := by
  have found : c.entries.find? (·.track == track) = some e := h
  have matched := List.find?_some found
  exact beq_iff_eq.mp matched

/-- The cache takes an envelope: its track is known, or there is room for a new one. -/
def admits (c : TrackCache) (limit : Nat) (e : Envelope) : Prop :=
  (c.get? e.track).isSome ∨ c.entries.length < limit

instance (c : TrackCache) (limit : Nat) (e : Envelope) : Decidable (c.admits limit e) :=
  inferInstanceAs (Decidable (_ ∨ _))

theorem remember_of_admits {c : TrackCache} {limit : Nat} {e : Envelope}
    (h : c.admits limit e) : c.remember limit e = ⟨place e c.entries⟩ := by
  unfold remember
  rw [if_neg]
  rw [Bool.and_eq_true, decide_eq_true_eq]
  rintro ⟨unknown, full⟩
  rcases h with known | room
  · rw [Option.isNone_iff_eq_none.mp unknown] at known
    cases known
  · omega

theorem remember_of_not_admits {c : TrackCache} {limit : Nat} {e : Envelope}
    (h : ¬ c.admits limit e) : c.remember limit e = c := by
  unfold remember
  rw [if_pos]
  rw [Bool.and_eq_true, decide_eq_true_eq]
  refine ⟨?_, ?_⟩
  · rw [Option.isNone_iff_eq_none, ← Option.not_isSome_iff_eq_none]
    exact fun known => h (Or.inl known)
  · by_contra room
    exact h (Or.inr (by omega))

/-- Under its own track an envelope is found afterwards exactly if it was admitted. -/
theorem get?_remember_self (c : TrackCache) (limit : Nat) (e : Envelope) :
    (c.remember limit e).get? e.track = if c.admits limit e then some e else none := by
  split
  next admitted =>
    rw [remember_of_admits admitted, get?, find?_place, if_pos rfl]
  next turnedAway =>
    -- Only what is about an unknown track is turned away.
    rw [remember_of_not_admits turnedAway, ← Option.not_isSome_iff_eq_none]
    exact fun known => turnedAway (Or.inl known)

/-- The other tracks are as they were. -/
theorem get?_remember_ne {e : Envelope} {track : String} (h : e.track ≠ track) (c : TrackCache)
    (limit : Nat) : (c.remember limit e).get? track = c.get? track := by
  by_cases admitted : c.admits limit e
  · rw [remember_of_admits admitted, get?, find?_place, if_neg h]
    rfl
  · rw [remember_of_not_admits admitted]

/-- A cache stays sound, as long as it is given envelopes of its kind. -/
theorem sound_remember {kind : Kind} {c : TrackCache} (sound : c.Sound kind) {e : Envelope}
    (h : e.kind = kind) (limit : Nat) : (c.remember limit e).Sound kind := by
  by_cases admitted : c.admits limit e
  · rw [remember_of_admits admitted]
    refine ⟨ordered_place sound.ordered e, fun x mem => ?_⟩
    rcases mem_of_mem_place mem with rfl | old
    · exact h
    · exact sound.kinds x old
  · rw [remember_of_not_admits admitted]
    exact sound

/-- The cache stays as it is: it holds the very envelope, or has no room for its track. -/
def Ignores (c : TrackCache) (limit : Nat) (e : Envelope) : Prop :=
  c.get? e.track = some e ∨ c.get? e.track = none ∧ limit ≤ c.entries.length

/-- These are the two ways for a cache to stay as it is. -/
theorem remember_eq_self_iff {kind : Kind} {c : TrackCache} (sound : c.Sound kind) (limit : Nat)
    (e : Envelope) : c.remember limit e = c ↔ c.Ignores limit e := by
  by_cases admitted : c.admits limit e
  · constructor
    · intro same
      have found := get?_remember_self c limit e
      rw [same, if_pos admitted] at found
      exact Or.inl found
    · intro h
      rw [remember_of_admits admitted]
      rcases h with held | ⟨unknown, full⟩
      · -- Placing what is there already changes nothing, because each track stands there once.
        rw [place_of_mem sound.ordered (List.mem_of_find?_eq_some held)]
      · rcases admitted with known | room
        · rw [unknown] at known
          cases known
        · omega
  · refine ⟨fun _ => Or.inr ⟨?_, ?_⟩, fun _ => remember_of_not_admits admitted⟩
    · rw [← Option.not_isSome_iff_eq_none]
      exact fun known => admitted (Or.inl known)
    · by_contra room
      exact admitted (Or.inr (by omega))

end TrackCache

/-! ## The two caches of a side -/

namespace Side

/-- The cache that a side keeps of a kind takes an envelope. There is none of candidates. -/
def Admits (side : Side) (limit : Nat) (e : Envelope) : Kind → Prop
  | .offer => side.offers.admits limit e
  | .answer => side.answers.admits limit e
  | .candidate => False

instance (side : Side) (limit : Nat) (e : Envelope) : (k : Kind) → Decidable (side.Admits limit e k)
  | .offer => inferInstanceAs (Decidable (side.offers.admits limit e))
  | .answer => inferInstanceAs (Decidable (side.answers.admits limit e))
  | .candidate => inferInstanceAs (Decidable False)

/-- **What is found once an envelope has been remembered.** Under its own kind and track that is
the envelope itself if the cache takes it, and nothing if it does not. Under any other it is what
was found before. -/
theorem cached?_remember (side : Side) (limit : Nat) (e : Envelope) (k : Kind) (track : String) :
    (side.remember limit e).cached? k track =
      if e.isAbout k track = true then (if side.Admits limit e k then some e else none)
      else side.cached? k track := by
  by_cases about : e.isAbout k track = true
  · rw [if_pos about]
    obtain ⟨rfl, rfl⟩ := Envelope.isAbout_iff.mp about
    unfold remember cached?
    cases kind : e.kind with
    | offer => exact TrackCache.get?_remember_self ..
    | answer => exact TrackCache.get?_remember_self ..
    | candidate => rfl
  · rw [if_neg about]
    have elsewhere : e.kind = k → e.track ≠ track := fun kind same =>
      about (Envelope.isAbout_iff.mpr ⟨kind, same⟩)
    unfold remember cached?
    -- The cache that is written is read only where the kinds agree.
    cases kind : e.kind with
    | offer =>
      cases k with
      | offer => exact TrackCache.get?_remember_ne (elsewhere kind) ..
      | answer | candidate => rfl
    | answer =>
      cases k with
      | answer => exact TrackCache.get?_remember_ne (elsewhere kind) ..
      | offer | candidate => rfl
    | candidate => rfl

/-- Whatever is found where an envelope was remembered is that envelope. -/
theorem cached?_remember_of_isAbout {side : Side} {limit : Nat} {e x : Envelope} {k : Kind}
    {track : String} (about : e.isAbout k track = true)
    (h : (side.remember limit e).cached? k track = some x) : x = e := by
  rw [cached?_remember, if_pos about] at h
  split at h
  · exact (Option.some.inj h).symm
  · cases h

/-- What is remembered of one kind and track hides nothing of another. -/
theorem cached?_remember_of_not_isAbout {e : Envelope} {k : Kind} {track : String}
    (other : e.isAbout k track = false) (side : Side) (limit : Nat) :
    (side.remember limit e).cached? k track = side.cached? k track := by
  rw [cached?_remember, other]
  exact if_neg Bool.false_ne_true

/-- Both caches of a side are sound. -/
structure CachesSound (side : Side) : Prop where
  offers : side.offers.Sound .offer
  answers : side.answers.Sound .answer

/-- Each of the caches is given envelopes of its own kind only. -/
theorem cachesSound_remember {side : Side} (sound : side.CachesSound) (limit : Nat)
    (e : Envelope) : (side.remember limit e).CachesSound := by
  unfold remember
  cases kind : e.kind with
  | offer => exact ⟨TrackCache.sound_remember sound.offers kind limit, sound.answers⟩
  | answer => exact ⟨sound.offers, TrackCache.sound_remember sound.answers kind limit⟩
  | candidate => exact sound

/-- The caches stay as they are with an envelope that the side sends. -/
def Ignores (side : Side) (limit : Nat) (e : Envelope) : Prop :=
  match e.kind with
  | .offer => side.offers.Ignores limit e
  | .answer => side.answers.Ignores limit e
  | .candidate => True

/-- A side stays as it is with a message exactly if the cache of its kind does. -/
theorem remember_eq_self_iff {side : Side} (sound : side.CachesSound) (limit : Nat)
    (e : Envelope) : side.remember limit e = side ↔ side.Ignores limit e := by
  unfold remember Ignores
  cases e.kind with
  | offer =>
    rw [← TrackCache.remember_eq_self_iff sound.offers]
    refine ⟨fun same => congrArg Side.offers same, fun same => ?_⟩
    dsimp only
    rw [same]
  | answer =>
    rw [← TrackCache.remember_eq_self_iff sound.answers]
    refine ⟨fun same => congrArg Side.answers same, fun same => ?_⟩
    dsimp only
    rw [same]
  | candidate => exact ⟨fun _ => trivial, fun _ => rfl⟩

/-- Only messages that the side sends change what it has cached. -/
theorem caches_of_unsent {role : Role} {ev : Session.Event} (unsent : ev.message? role.peer = none)
    (limits : Limits) (side : Side) :
    (side.step limits role ev).offers = side.offers ∧
    (side.step limits role ev).answers = side.answers := by
  unfold step
  cases ev with
  | relay destination e =>
    have received : destination = role := by
      by_contra fromMe
      rw [Session.Event.message?,
        if_pos ((Role.eq_or_eq_peer role destination).resolve_left fromMe)] at unsent
      cases unsent
    dsimp only
    rw [if_pos received]
    exact ⟨rfl, rfl⟩
  | attach | detach | claim | clear =>
    dsimp only
    split <;> exact ⟨rfl, rfl⟩
  | close | connect | take | drop | wait => exact ⟨rfl, rfl⟩

/-- A message that the side sends is remembered, and that is all. -/
theorem step_of_sent {role : Role} {ev : Session.Event} {e : Envelope}
    (sent : ev.message? role.peer = some e) (limits : Limits) (side : Side) :
    side.step limits role ev = side.remember limits.tracks e := by
  cases ev with
  | relay destination x =>
    rw [Session.Event.message?] at sent
    split at sent
    next fromMe =>
      cases sent
      rw [step, if_neg (fromMe ▸ Role.peer_ne role)]
    next => cases sent
  | _ => cases sent

/-- Only what is sent changes a cache. -/
theorem caches_step (limits : Limits) (role : Role) (side : Side) (ev : Session.Event) :
    (∃ e, side.step limits role ev = side.remember limits.tracks e) ∨
    ((side.step limits role ev).offers = side.offers ∧
      (side.step limits role ev).answers = side.answers) := by
  cases sent : ev.message? role.peer with
  | some e => exact Or.inl ⟨e, step_of_sent sent limits side⟩
  | none => exact Or.inr (caches_of_unsent sent limits side)

/-- No event makes a cache unsound. Only a message sent from this side reaches one. -/
theorem cachesSound_step {side : Side} (sound : side.CachesSound) (limits : Limits) (role : Role)
    (ev : Session.Event) : (side.step limits role ev).CachesSound := by
  rcases caches_step limits role side ev with ⟨e, sent⟩ | ⟨offers, answers⟩
  · rw [sent]
    exact cachesSound_remember sound _ e
  · constructor
    · rw [offers]
      exact sound.offers
    · rw [answers]
      exact sound.answers

/-- A side holds an envelope exactly if looking up its kind and track finds it. -/
theorem mem_cached_iff {side : Side} (sound : side.CachesSound) {e : Envelope} :
    e ∈ side.cached ↔ side.cached? e.kind e.track = some e := by
  unfold cached cached?
  rw [List.mem_append]
  constructor
  · rintro (offer | answer)
    · rw [sound.offers.kinds e offer]
      exact (TrackCache.mem_entries_iff sound.offers).mp offer
    · rw [sound.answers.kinds e answer]
      exact (TrackCache.mem_entries_iff sound.answers).mp answer
  · intro h
    cases kind : e.kind with
    | offer =>
      rw [kind] at h
      exact Or.inl ((TrackCache.mem_entries_iff sound.offers).mpr h)
    | answer =>
      rw [kind] at h
      exact Or.inr ((TrackCache.mem_entries_iff sound.answers).mpr h)
    | candidate =>
      rw [kind] at h
      cases h

/-- What is found under a kind and a track is of that kind and track. -/
theorem isAbout_of_cached? {side : Side} (sound : side.CachesSound) {k : Kind} {track : String}
    {e : Envelope} (h : side.cached? k track = some e) : e.isAbout k track = true := by
  rw [Envelope.isAbout_iff]
  cases k with
  | offer =>
    have kept : e ∈ side.offers.entries := List.mem_of_find?_eq_some h
    exact ⟨sound.offers.kinds e kept, TrackCache.track_of_get? h⟩
  | answer =>
    have kept : e ∈ side.answers.entries := List.mem_of_find?_eq_some h
    exact ⟨sound.answers.kinds e kept, TrackCache.track_of_get? h⟩
  | candidate => cases h

/-- There is at most one envelope of a kind and a track in the caches. -/
theorem eq_of_mem_cached {side : Side} (sound : side.CachesSound) {k : Kind} {track : String}
    {e x : Envelope} (h : side.cached? k track = some e) (mem : x ∈ side.cached)
    (about : x.isAbout k track = true) : x = e := by
  have found := (mem_cached_iff sound).mp mem
  obtain ⟨rfl, rfl⟩ := Envelope.isAbout_iff.mp about
  rw [found] at h
  exact Option.some.inj h

end Side

end Rendezvous
