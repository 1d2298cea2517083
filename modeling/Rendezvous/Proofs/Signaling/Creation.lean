import Rendezvous.Proofs.Signaling.History

/-!
# How rooms get their codes

Codes are drawn from a generator of which nothing is known: it may return the empty text, or a
code that is taken, or the same code for ever. A room gets the first usable code among the next
thirty-two, or there is no room. No candidate is drawn beyond the one that is taken
(`draw_cases`), and whether a candidate is usable does not depend on those drawn before, since
no room is made while they are drawn.

So no two live rooms have one code, and this can be said without the rooms: a code that was
given away is given away again only after its room was ended (`created_under_first_usable`).
-/

namespace Rendezvous

/-- A session as it is before anything has happened in it. -/
structure Session.Vacant (s : Session) (code presenter : String) : Prop where
  code : s.code = code
  presenter : s.slot .presenter = ⟨some presenter, none⟩
  viewer : s.slot .viewer = .empty
  pending : ∀ role, s.pending role = []
  offers : ∀ role, (s.side role).offers = .empty
  answers : ∀ role, (s.side role).answers = .empty

/-- A new room is vacant. -/
theorem Session.vacant_start (code presenter : String) (limits : Limits) (now : Instant) :
    (start code presenter limits now).Vacant code presenter where
  code := rfl
  presenter := rfl
  viewer := rfl
  pending role := by cases role <;> rfl
  offers role := by cases role <;> rfl
  answers role := by cases role <;> rfl

namespace Relay

variable {r : Relay}

/-! ## Candidates -/

/-- A room could be made under the code: it is not empty, and no live room has it. -/
def Usable (r : Relay) (code : String) : Prop := code ≠ "" ∧ r.isLive code = false

instance (r : Relay) (code : String) : Decidable (r.Usable code) :=
  inferInstanceAs (Decidable (_ ∧ _))

/-- The candidate that is drawn after so many others from now on. -/
def upcoming (r : Relay) (k : Nat) : String := r.candidates (r.drawn + k)

/-- Of the candidates to come, this is the first usable one. -/
def FirstUsable (r : Relay) (k : Nat) : Prop :=
  r.Usable (r.upcoming k) ∧ ∀ j < k, ¬ r.Usable (r.upcoming j)

/-- The generator is asked again exactly for what is not usable. -/
theorem usable_iff {code : String} : r.Usable code ↔ ¬ (code.isEmpty || r.isLive code) = true := by
  rw [Bool.or_eq_true, not_or, String.isEmpty_iff, Bool.not_eq_true, Usable]

/-- Drawing stops at the first usable candidate, or when the draws are used up. -/
theorem draw_cases (r : Relay) (left drawn : Nat) :
    (∃ k < left, r.Usable (r.candidates (drawn + k)) ∧
      (∀ j < k, ¬ r.Usable (r.candidates (drawn + j))) ∧
      r.draw left drawn = (some (r.candidates (drawn + k)), drawn + k + 1)) ∨
    (∀ k < left, ¬ r.Usable (r.candidates (drawn + k))) ∧
      r.draw left drawn = (none, drawn + left) := by
  induction left generalizing drawn with
  | zero => exact Or.inr ⟨fun k below => absurd below (Nat.not_lt_zero k), rfl⟩
  | succ left ih =>
    rw [draw]
    split
    next useless =>
      have first : ¬ r.Usable (r.candidates drawn) := fun usable => usable_iff.mp usable useless
      -- What comes after the first candidate is counted from the second.
      have shift : ∀ n, (∀ j < n, ¬ r.Usable (r.candidates (drawn + 1 + j))) →
          ∀ j < n + 1, ¬ r.Usable (r.candidates (drawn + j)) := by
        intro n useless j below
        cases j with
        | zero => exact first
        | succ j =>
          rw [Nat.add_comm j, ← Nat.add_assoc]
          exact useless j (Nat.lt_of_succ_lt_succ below)
      rcases ih (drawn + 1) with ⟨k, below, usable, before, drawing⟩ | ⟨none, drawing⟩
      · have place : drawn + 1 + k = drawn + (k + 1) := by omega
        rw [place] at usable drawing
        exact Or.inl ⟨k + 1, Nat.succ_lt_succ below, usable, shift k before, drawing⟩
      · rw [drawing]
        refine Or.inr ⟨shift left none, ?_⟩
        rw [Nat.add_assoc, Nat.add_comm 1]
    next usable =>
      refine Or.inl ⟨0, Nat.succ_pos left, usable_iff.mpr usable, ?_, rfl⟩
      exact fun j below => absurd below (Nat.not_lt_zero j)

/-- What making a room comes to if the candidate after so many others is taken for it. -/
structure Founds (r : Relay) (presenter : String) (k : Nat) : Prop where
  answer : (r.create presenter).1 = .ok (r.upcoming k)
  drawn : (r.create presenter).2.drawn = r.drawn + (k + 1)
  /-- One room is new, and those before it are the rooms there were. -/
  rooms : ∃ s, s.Vacant (r.upcoming k) presenter ∧ (r.create presenter).2.rooms = r.rooms ++ [s] ∧
    (r.create presenter).2.find? (r.upcoming k) = some s
  others : ∀ code ≠ r.upcoming k, (r.create presenter).2.find? code = r.find? code

/-- Once a usable code has been drawn, the room is founded under it. -/
theorem founds_of_draw {presenter : String} {k : Nat} (usable : r.Usable (r.upcoming k))
    (isDrawn : r.draw maxDraws r.drawn = (some (r.upcoming k), r.drawn + k + 1)) :
    r.Founds presenter k := by
  have absent : r.find? (r.upcoming k) = none :=
    Option.isNone_iff_eq_none.mp (Option.isSome_eq_false_iff.mp usable.2)
  have made : r.create presenter = (.ok (r.upcoming k), (r.create presenter).2) := by
    rw [create, isDrawn]
  have rooms : (r.create presenter).2.rooms =
      r.rooms ++ [.start (r.upcoming k) presenter r.limits r.now] := by
    rw [create, isDrawn]
  refine
    { answer := congrArg Prod.fst made, drawn := ?_,
      rooms := ⟨_, Session.vacant_start .., rooms, find?_snoc_self rooms absent rfl⟩,
      others := fun code other => find?_snoc_ne rooms other.symm }
  rw [create, isDrawn]
  rfl

/-- A room is founded on the first usable candidate of thirty-two, or none is. -/
theorem founds_or_exhausts (r : Relay) (presenter : String) :
    (∃ k < 32, r.FirstUsable k ∧ r.Founds presenter k) ∨
    (∀ k < 32, ¬ r.Usable (r.upcoming k)) ∧
      r.create presenter = (.error (.codesExhausted 32), { r with drawn := r.drawn + 32 }) := by
  rcases r.draw_cases maxDraws r.drawn with ⟨k, below, usable, before, isDrawn⟩ | ⟨none, isDrawn⟩
  · exact Or.inl ⟨k, below, ⟨usable, before⟩, founds_of_draw usable isDrawn⟩
  · refine Or.inr ⟨none, ?_⟩
    rw [create, isDrawn]
    rfl

/-- No room is made under the empty code. -/
theorem nonempty_of_makes {code presenter : String} {op : Operation}
    (makes : Makes code presenter r op) : code ≠ "" := by
  obtain ⟨-, answer⟩ := makes
  rcases r.create_cases presenter with ⟨fault, failed, -⟩ | ⟨drawn, made, nonempty, -, -⟩
  · rw [failed] at answer
    cases answer
  · obtain rfl : drawn = code := Except.ok.inj (made.symm.trans answer)
    rintro rfl
    cases nonempty

/-- **A room gets the first usable code**, whatever the generator returns. After any run from a
relay without rooms: if one of the next thirty-two candidates is usable, a vacant room is made
under the first of them, no candidate is drawn after it, and all other rooms stay as they are;
otherwise thirty-two are drawn, and nothing else changes. A room is found under its own code,
which is not empty; a code is live exactly while an answer that gave it away stands; and two
such answers never gave away the same code. -/
theorem created_under_first_usable (limits : Limits) (candidates : Nat → String) (lines : Lines)
    {ops : List Operation} {start : Relay} (fresh : start = opened limits candidates lines)
    {r : Relay} (reached : r = start.run ops) (presenter : String) :
    ((∃ k < 32, r.Usable (r.upcoming k)) → ∃ k < 32, r.FirstUsable k ∧ r.Founds presenter k) ∧
    ((¬ ∃ k < 32, r.Usable (r.upcoming k)) →
      r.create presenter = (.error (.codesExhausted 32), { r with drawn := r.drawn + 32 })) ∧
    (∀ code s, r.find? code = some s → code ≠ "" ∧ s.code = code) ∧
    (∀ code, r.isLive code = true ↔ (lives code).Stands start ops) ∧
    ∀ i j code code', i ≠ j → (lives code).BegunAt start ops i →
      (lives code').BegunAt start ops j → code ≠ code' := by
  have empty : start.rooms = [] := by
    rw [fresh]
    rfl
  have live : ∀ code, r.isLive code = true ↔ (lives code).Stands start ops := by
    intro code
    rw [reached]
    exact (lives_tracks code).iff_stands empty ops
  refine ⟨fun ⟨k, below, usable⟩ => ?_, fun useless => ?_, fun code s found => ⟨?_, ?_⟩, live, ?_⟩
  · rcases r.founds_or_exhausts presenter with founds | ⟨none, -⟩
    · exact founds
    · exact absurd usable (none k below)
  · rcases r.founds_or_exhausts presenter with ⟨k, below, ⟨usable, -⟩, -⟩ | ⟨-, exhausts⟩
    · exact absurd ⟨k, below, usable⟩ useless
    · exact exhausts
  · have isLive : r.isLive code = true := by rw [Relay.isLive, found, Option.isSome_some]
    obtain ⟨i, ⟨op, -, presenter, makes⟩, -⟩ := (live code).mp isLive
    exact nonempty_of_makes makes
  · exact code_of_find? found
  · -- One code cannot begin twice without an end in between, for its room would still be live.
    rintro i j code _ differ first second rfl
    refine differ ((lives_tracks code).place_unique (fun _ _ begins => ?_) empty first second)
    exact not_isLive_of_makes begins

/-- A generator that begins with the empty text, and returns everything twice. -/
def stuttering (n : Nat) : String := if n < 2 then "" else if n < 4 then "den" else "room"

/-- A second room is made: the code of the first is drawn again, and passed over. Then there is
nothing new to draw. -/
theorem created_under_first_usable_stuttering :
    let start := opened ⟨4, 2⟩ stuttering .empty
    let r := start.run [.create "host"]
    let full := start.run [.create "host", .create "guest"]
    (∃ k < 32, r.FirstUsable k ∧ r.Founds "guest" k) ∧
    (r.create "guest").1 = .ok "room" ∧ (r.create "guest").2.drawn = 5 ∧
    full.create "other" = (.error (.codesExhausted 32), { full with drawn := 37 }) := by
  intro start r full
  have usable : ∃ k < 32, r.Usable (r.upcoming k) := ⟨1, by decide, by decide +kernel⟩
  have useless : ¬ ∃ k < 32, full.Usable (full.upcoming k) := by decide +kernel
  have spare := created_under_first_usable ⟨4, 2⟩ stuttering .empty rfl
    (show r = _ from rfl) "guest"
  have none := created_under_first_usable ⟨4, 2⟩ stuttering .empty rfl
    (show full = _ from rfl) "other"
  exact ⟨spare.1 usable, by decide +kernel, by decide +kernel, none.2.1 useless⟩

end Relay

end Rendezvous
