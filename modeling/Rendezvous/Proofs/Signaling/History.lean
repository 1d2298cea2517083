import Rendezvous.Proofs.Session.Form
import Rendezvous.Proofs.Signaling.Eviction

/-!
# What began and has not ended

Each operation of a run was done to the relay that the operations before it had led to. So
what the past of a run holds is said with places in its list of operations: something began at
one place, and was ended at no later one (`Tenure.BegunAt`). Nothing of this looks at the
rooms that the run has led to.

The state and the past meet in `Tenure.Tracks`: what the operations begin and end one by one
holds of the relay after a run exactly if it began somewhere in the run and has not ended since
(`Tracks.iff_stands`).
-/

namespace Rendezvous.Relay

/-! ## Tenures -/

/-- Something that operations begin and end. -/
structure Tenure where
  begins : Relay → Operation → Prop
  ends : Relay → Operation → Prop

namespace Tenure

/-- It began with the operation at this place of a run, and none after it has ended it. -/
def BegunAt (t : Tenure) (start : Relay) (ops : List Operation) (i : Nat) : Prop :=
  (∃ op, ops[i]? = some op ∧ t.begins (start.run (ops.take i)) op) ∧
  ∀ j op, i < j → ops[j]? = some op → ¬ t.ends (start.run (ops.take j)) op

/-- It began somewhere in a run, and has not ended since. -/
def Stands (t : Tenure) (start : Relay) (ops : List Operation) : Prop :=
  ∃ i, t.BegunAt start ops i

variable {t : Tenure} {start : Relay} {ops : List Operation} {i : Nat}

theorem BegunAt.lt_length (h : t.BegunAt start ops i) : i < ops.length := by
  obtain ⟨⟨op, found, -⟩, -⟩ := h
  exact (List.getElem?_eq_some_iff.mp found).1

/-- What has not ended by the end of a run had not ended at any earlier place. -/
theorem BegunAt.take (h : t.BegunAt start ops i) {n : Nat} (after : i < n) :
    t.BegunAt start (ops.take n) i := by
  obtain ⟨⟨op, found, begins⟩, lasts⟩ := h
  refine ⟨⟨op, ?_, ?_⟩, fun j op later found => ?_⟩
  · rw [List.getElem?_take_of_lt after, found]
  · rw [List.take_take, Nat.min_eq_left (Nat.le_of_lt after)]
    exact begins
  · rw [List.getElem?_take] at found
    split at found
    next inside =>
      rw [List.take_take, Nat.min_eq_left (Nat.le_of_lt inside)]
      exact lasts j op later found
    next => cases found

/-- A tenure begins with the last operation if that one begins it. -/
theorem begunAt_snoc_length (op : Operation) :
    t.BegunAt start (ops ++ [op]) ops.length ↔ t.begins (start.run ops) op := by
  constructor
  · rintro ⟨⟨last, found, begins⟩, -⟩
    rw [List.getElem?_concat_length, Option.some.injEq] at found
    rw [List.take_left, ← found] at begins
    exact begins
  · intro begins
    refine ⟨⟨op, List.getElem?_concat_length, ?_⟩, fun j other later found => ?_⟩
    · rw [List.take_left]
      exact begins
    · have short := (List.getElem?_eq_some_iff.mp found).1
      rw [List.length_append, List.length_singleton] at short
      omega

/-- If it began before, the last operation must not have ended it. -/
theorem begunAt_snoc_of_lt (op : Operation) (inside : i < ops.length) :
    t.BegunAt start (ops ++ [op]) i ↔ t.BegunAt start ops i ∧ ¬ t.ends (start.run ops) op := by
  constructor
  · intro h
    have before := h.take inside
    rw [List.take_left] at before
    refine ⟨before, ?_⟩
    have last := h.2 ops.length op inside List.getElem?_concat_length
    rw [List.take_left] at last
    exact last
  · rintro ⟨⟨⟨first, found, begins⟩, lasts⟩, stays⟩
    refine ⟨⟨first, ?_, ?_⟩, fun j other later found => ?_⟩
    · rw [List.getElem?_append_left inside, found]
    · rw [List.take_append_of_le_length (Nat.le_of_lt inside)]
      exact begins
    · have short := (List.getElem?_eq_some_iff.mp found).1
      rw [List.length_append, List.length_singleton] at short
      -- Each later operation is one of the old ones or the one just added.
      rcases Nat.lt_or_eq_of_le (Nat.le_of_lt_succ short) with early | rfl
      · rw [List.getElem?_append_left early] at found
        rw [List.take_append_of_le_length (Nat.le_of_lt early)]
        exact lasts j other later found
      · rw [List.getElem?_concat_length, Option.some.injEq] at found
        rw [List.take_left, ← found]
        exact stays

theorem not_stands_nil : ¬ t.Stands start [] := by
  rintro ⟨i, h⟩
  exact absurd h.lt_length (Nat.not_lt_zero i)

/-- One more operation begins it, or it stood before and the operation does not end it. -/
theorem stands_snoc (op : Operation) : t.Stands start (ops ++ [op]) ↔
    t.begins (start.run ops) op ∨ t.Stands start ops ∧ ¬ t.ends (start.run ops) op := by
  constructor
  · rintro ⟨i, h⟩
    have short := h.lt_length
    rw [List.length_append, List.length_singleton] at short
    rcases Nat.lt_or_eq_of_le (Nat.le_of_lt_succ short) with early | rfl
    · obtain ⟨before, stays⟩ := (begunAt_snoc_of_lt op early).mp h
      exact Or.inr ⟨⟨i, before⟩, stays⟩
    · exact Or.inl ((begunAt_snoc_length op).mp h)
  · rintro (begins | ⟨⟨i, before⟩, stays⟩)
    · exact ⟨ops.length, (begunAt_snoc_length op).mpr begins⟩
    · exact ⟨i, (begunAt_snoc_of_lt op before.lt_length).mpr ⟨before, stays⟩⟩

/-- A property of the relay that holds of none without rooms, and that every operation makes
true or false as it begins or ends the tenure. -/
structure Tracks (t : Tenure) (P : Relay → Prop) : Prop where
  fresh : ∀ r : Relay, r.rooms = [] → ¬ P r
  step : ∀ r : Relay, Keyed r.rooms → ∀ op,
    P (r.operate op).2 ↔ t.begins r op ∨ P r ∧ ¬ t.ends r op

variable {P : Relay → Prop}

theorem keyed_of_empty (empty : start.rooms = []) (ops : List Operation) :
    Keyed (start.run ops).rooms := by
  apply keyed_run
  rw [empty]
  exact List.nodup_nil

/-- **After a run holds what stands.** -/
theorem Tracks.iff_stands (tracks : t.Tracks P) (empty : start.rooms = [])
    (ops : List Operation) : P (start.run ops) ↔ t.Stands start ops := by
  induction ops using List.reverseRecOn with
  | nil => exact iff_of_false (tracks.fresh start empty) not_stands_nil
  | append_singleton ops op ih =>
    rw [run_snoc, tracks.step _ (keyed_of_empty empty ops), stands_snoc, ih]

/-- What can begin only while it does not hold began at one place only. -/
theorem Tracks.place_unique (tracks : t.Tracks P)
    (once : ∀ (r : Relay) op, t.begins r op → ¬ P r) (empty : start.rooms = []) {j : Nat}
    (h : t.BegunAt start ops i) (h' : t.BegunAt start ops j) : i = j := by
  have no_later : ∀ {i j}, t.BegunAt start ops i → t.BegunAt start ops j → ¬ i < j := by
    intro i j first second later
    obtain ⟨⟨op, -, begins⟩, -⟩ := second
    exact once _ op begins ((tracks.iff_stands empty (ops.take j)).mpr ⟨i, first.take later⟩)
  exact Nat.le_antisymm (Nat.le_of_not_lt (no_later h' h)) (Nat.le_of_not_lt (no_later h h'))

end Tenure

/-! ## Rooms -/

/-- The operation is answered with the code of a new room for the presenter. -/
def Makes (code presenter : String) (r : Relay) (op : Operation) : Prop :=
  op = .create presenter ∧ (r.create presenter).1 = .ok code

/-- The operation takes away the room of a code: it removes it, or it is a sweep that names the
code among those that it has taken. -/
def Ends (code : String) (r : Relay) : Operation → Prop
  | .remove removed => removed = code
  | .evict maxIdle => code ∈ (r.evict maxIdle).1
  | _ => False

/-- A live room that was made for the presenter. -/
def made (code presenter : String) : Tenure := ⟨Makes code presenter, Ends code⟩

/-- A live room, whoever it was made for. -/
def lives (code : String) : Tenure :=
  ⟨fun r op => ∃ presenter, Makes code presenter r op, Ends code⟩

variable {r : Relay} {code : String}

/-- A room is made under a code that no room has. -/
theorem find?_of_makes {presenter : String} {op : Operation} (makes : Makes code presenter r op) :
    r.find? code = none ∧
    (r.operate op).2.find? code = some (.start code presenter r.limits r.now) := by
  obtain ⟨rfl, answer⟩ := makes
  rcases r.create_cases presenter with ⟨fault, failed, -⟩ | ⟨drawn, isMade, -, absent, rooms⟩
  · rw [failed] at answer
    cases answer
  · obtain rfl : drawn = code := Except.ok.inj (isMade.symm.trans answer)
    exact ⟨absent, find?_snoc_self rooms absent rfl⟩

/-- A room that has ended is gone. -/
theorem find?_of_ends (keyed : Keyed r.rooms) {op : Operation} (ends : Ends code r op) :
    (r.operate op).2.find? code = none := by
  cases op with
  | remove removed =>
    obtain rfl : removed = code := ends
    show (r.remove removed).2.find? removed = none
    rw [find?_remove keyed, Option.filter_eq_none_iff]
    intro s live
    rw [code_of_find? live, bne_self_eq_false]
    exact Bool.false_ne_true
  | evict maxIdle =>
    have taken : code ∈ (r.evict maxIdle).1 := ends
    show (r.evict maxIdle).2.find? code = none
    rw [find?_evict_eq keyed, if_pos taken]
  | _ => exact absurd ends not_false

/-- Otherwise the room of a code stays as it is, or one event of its session happens in it. -/
theorem find?_of_neither (keyed : Keyed r.rooms) {op : Operation}
    (unmade : ∀ presenter, ¬ Makes code presenter r op) (stays : ¬ Ends code r op) :
    (r.operate op).2.find? code = r.find? code ∨
    ∃ ev, (r.operate op).2.find? code =
      (r.find? code).map fun s => (Session.Stage.step ⟨s, r.outlet, r.now⟩ ev).session := by
  cases op with
  | create presenter =>
    apply Or.inl
    show (r.create presenter).2.find? code = _
    rcases r.create_cases presenter with ⟨fault, -, rooms⟩ | ⟨drawn, isMade, -, -, rooms⟩
    · rw [find?, rooms]
      rfl
    · refine find?_snoc_ne rooms ?_
      rintro rfl
      exact unmade presenter ⟨rfl, isMade⟩
  | remove removed =>
    have differ : removed ≠ code := stays
    apply Or.inl
    show (r.remove removed).2.find? code = _
    rw [find?_remove keyed]
    cases live : r.find? code with
    | none => rfl
    | some s =>
      rw [Option.filter_some, code_of_find? live, if_pos (bne_iff_ne.mpr differ.symm)]
  | evict maxIdle =>
    have left : code ∉ (r.evict maxIdle).1 := stays
    apply Or.inl
    show (r.evict maxIdle).2.find? code = _
    rw [find?_evict_eq keyed, if_neg left]
  | claim inside | clear inside | join inside | leave inside | send inside =>
    rw [operate_deed, Operation.deed, find?_within]
    split
    · exact Or.inr ⟨_, rfl⟩
    · exact Or.inl rfl
  | check | look | count | find | take | drop | wait => exact Or.inl rfl

/-- The room of a code with a property that no event of a session changes. -/
theorem exists_operate_iff {Q : Session → Prop}
    (kept : ∀ (st : Session.Stage) ev, Q (st.step ev).session ↔ Q st.session)
    (keyed : Keyed r.rooms) (code : String) (op : Operation) :
    (∃ s, (r.operate op).2.find? code = some s ∧ Q s) ↔
      (∃ presenter, Makes code presenter r op ∧ Q (.start code presenter r.limits r.now)) ∨
      (∃ s, r.find? code = some s ∧ Q s) ∧ ¬ Ends code r op := by
  -- Made, ended or neither: an operation does at most one of the first two to a room.
  by_cases makes : ∃ presenter, Makes code presenter r op
  · obtain ⟨presenter, makes⟩ := makes
    obtain ⟨absent, found⟩ := find?_of_makes makes
    have same : ∀ other, Makes code other r op → other = presenter := by
      rintro other ⟨isCreate, -⟩
      obtain ⟨rfl, -⟩ := makes
      exact (Operation.create.inj isCreate).symm
    rw [found, absent]
    constructor
    · rintro ⟨s, isNew, holds⟩
      obtain rfl := Option.some.inj isNew
      exact Or.inl ⟨presenter, makes, holds⟩
    · rintro (⟨other, makes', holds⟩ | ⟨⟨s, isRoom, -⟩, -⟩)
      · rw [same other makes'] at holds
        exact ⟨_, rfl, holds⟩
      · cases isRoom
  · have unmade : ∀ presenter, ¬ Makes code presenter r op := not_exists.mp makes
    have noNew : ¬ ∃ presenter, Makes code presenter r op ∧
        Q (.start code presenter r.limits r.now) :=
      fun ⟨presenter, makes, _⟩ => unmade presenter makes
    by_cases ends : Ends code r op
    · rw [find?_of_ends keyed ends]
      constructor
      · rintro ⟨s, isRoom, -⟩
        cases isRoom
      · rintro (new | ⟨-, stays⟩)
        · exact absurd new noNew
        · exact absurd ends stays
    · rw [or_iff_right noNew, and_iff_left ends]
      rcases find?_of_neither keyed unmade ends with same | ⟨ev, moved⟩
      · rw [same]
      · rw [moved]
        cases r.find? code with
        | none => simp
        | some s =>
          simp only [Option.map_some, Option.some.injEq, exists_eq_left']
          exact kept ⟨s, r.outlet, r.now⟩ ev

/-- A room is live from the moment it was made until it is ended. -/
theorem lives_tracks (code : String) : (lives code).Tracks fun r => r.isLive code = true where
  fresh r empty := by
    rw [isLive, find?, empty]
    exact Bool.false_ne_true
  step r keyed op := by
    have step := exists_operate_iff (Q := fun _ => True) (fun _ _ => Iff.rfl) keyed code op
    simp only [and_true] at step
    rw [isLive, isLive, Option.isSome_iff_exists, Option.isSome_iff_exists]
    exact step

theorem not_isLive_of_makes {op : Operation} (begins : (lives code).begins r op) :
    ¬ r.isLive code = true := by
  obtain ⟨presenter, makes⟩ := begins
  rw [isLive, (find?_of_makes makes).1]
  exact Bool.false_ne_true

/-- The presenter of the live room of a code. -/
def presenter? (r : Relay) (code : String) : Option String :=
  (r.find? code).bind fun s => (s.slot .presenter).identity

/-- The presenter of a code is that of the room found under it. -/
theorem presenter?_eq_some_iff {presenter : String} : r.presenter? code = some presenter ↔
    ∃ s, r.find? code = some s ∧ (s.slot .presenter).identity = some presenter :=
  Option.bind_eq_some_iff

/-- A room has the presenter that it was made for. -/
theorem made_tracks (code presenter : String) :
    (made code presenter).Tracks fun r => r.presenter? code = some presenter where
  fresh r empty := by
    rw [presenter?, find?, empty]
    intro found
    cases found
  step r keyed op := by
    have kept : ∀ (st : Session.Stage) ev,
        ((st.step ev).session.slot .presenter).identity = some presenter ↔
          (st.session.slot .presenter).identity = some presenter := by
      intro st ev
      rw [Session.slot, Session.side_step, Side.presenter_step]
      rfl
    have step := exists_operate_iff
      (Q := fun s => (s.slot .presenter).identity = some presenter) kept keyed code op
    rw [presenter?_eq_some_iff, presenter?_eq_some_iff, step]
    refine or_congr_left ⟨?_, fun makes => ⟨presenter, makes, rfl⟩⟩
    rintro ⟨other, makes, isPresenter⟩
    obtain rfl : other = presenter := Option.some.inj isPresenter
    exact makes

end Rendezvous.Relay
