import Rendezvous.Settings

/-!
# Settings that are accepted

Settings are accepted if every variable reads well by itself and the buffer passes the check
that joins three of them (`load_eq_ok_iff`). The check is made with saturated words. As long as
the sum it is about is a word, that is the sum itself (`le_buffer_of_load`).
-/

namespace Rendezvous

/-- A reading succeeds if its first part does, and then the second with what that gave. -/
theorem bind_eq_ok_iff {ε α β : Type} {x : Except ε α} {f : α → Except ε β} {b : β} :
    x >>= f = .ok b ↔ ∃ a, x = .ok a ∧ f a = .ok b := by
  cases x with
  | error cause => simp [bind, Except.bind]
  | ok a => simp [bind, Except.bind]

/-- As long as it is a word, the required buffer is the exact sum. -/
theorem Limits.requiredBuffer_of_lt {l : Limits}
    (h : l.pending + 2 * l.tracks < Decimal.wordCount) :
    l.requiredBuffer = l.pending + 2 * l.tracks := by
  unfold requiredBuffer Decimal.addSaturating Decimal.mulSaturating Decimal.wordMax
  omega

namespace Settings

/-- The variables of a list, with their values. -/
def listed (values : List (String × String)) : Variables := fun name => values.lookup name

/-- Each setting is what its variable says, and the buffer takes a full backlog. -/
structure ReadFrom (vars : Variables) (s : Settings) : Prop where
  bind : address vars "RELAY_BIND_ADDRESS" default.bind = .ok s.bind
  healthBind : address vars "RELAY_HEALTH_BIND_ADDRESS" default.healthBind = .ok s.healthBind
  root : rootPath vars = .ok s.root
  identityHeader : header vars = .ok s.identityHeader
  interval :
    positive vars "RELAY_EVICTION_INTERVAL_SECONDS" default.sweep.interval = .ok s.sweep.interval
  maxIdle : positive vars "RELAY_MAX_IDLE_SECONDS" default.sweep.maxIdle = .ok s.sweep.maxIdle
  pending :
    positive vars "RELAY_MAX_PENDING_MESSAGES" default.limits.pending = .ok s.limits.pending
  tracks : positive vars "RELAY_MAX_CACHED_TRACKS" default.limits.tracks = .ok s.limits.tracks
  buffer : positive vars "RELAY_CONNECTION_BUFFER" default.buffer = .ok s.buffer
  takesBacklog : checkBuffer s.limits s.buffer = .ok ()
  logFormat : format vars = .ok s.logFormat

variable {vars : Variables} {s : Settings}

/-- Settings load exactly if every one of them can be read, and nothing conflicts. -/
theorem load_eq_ok_iff : load vars = .ok s ↔ s.ReadFrom vars := by
  unfold load
  simp only [bind_eq_ok_iff]
  constructor
  · rintro ⟨bind, hBind, healthBind, hHealth, root, hRoot, header, hHeader, interval, hInterval,
      maxIdle, hIdle, pending, hPending, tracks, hTracks, buffer, hBuffer, ⟨⟩, hCheck, format,
      hFormat, made⟩
    cases made
    exact ⟨hBind, hHealth, hRoot, hHeader, hInterval, hIdle, hPending, hTracks, hBuffer, hCheck,
      hFormat⟩
  · intro h
    exact ⟨_, h.bind, _, h.healthBind, _, h.root, _, h.identityHeader, _, h.interval, _, h.maxIdle,
      _, h.pending, _, h.tracks, _, h.buffer, (), h.takesBacklog, _, h.logFormat, rfl⟩

/-- A number that has to be positive is, whether it was given or not. -/
theorem pos_of_positive {name : String} {fallback n : Nat} (h : 0 < fallback)
    (read : positive vars name fallback = .ok n) : 0 < n := by
  unfold positive at read
  split at read
  · cases read
    exact h
  · split at read
    · cases read
    · cases read
    next _ notZero _ =>
      cases read
      apply Nat.pos_of_ne_zero
      rintro rfl
      exact notZero rfl

/-- At least one message may wait. -/
theorem pending_pos_of_load (loaded : load vars = .ok s) : 0 < s.limits.pending :=
  pos_of_positive (by decide) (load_eq_ok_iff.mp loaded).pending

/-- An accepted buffer has room for a full queue and two full caches. -/
theorem le_buffer_of_load (loaded : load vars = .ok s)
    (exact_ : s.limits.pending + 2 * s.limits.tracks < Decimal.wordCount) :
    s.limits.pending + 2 * s.limits.tracks ≤ s.buffer := by
  have checked := (load_eq_ok_iff.mp loaded).takesBacklog
  unfold checkBuffer at checked
  split at checked
  · cases checked
  next enough =>
    rw [Limits.requiredBuffer_of_lt exact_] at enough
    omega

end Settings

end Rendezvous
