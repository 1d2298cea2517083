import Rendezvous.Json.Record
import Rendezvous.Proofs.Settings

/-!
# The shape of what is read

A value that was read is of a shape that not every value has: it nests no deeper than was
allowed, and each of its objects holds its members in rising order of names, whatever order
they were written in and however often a name was (`shaped_value`). This is what makes its
written form readable again.

Nothing that holds a double is promised to be the same when it is read back, so a value
without one is told apart: it is `isWhole`.

The last section is about records in general: what every member reader keeps of a draft, the
record has when it is finished (`gives_record`).
-/

namespace Rendezvous.Json

/-- The value nests at most so deep, and its objects hold their members in rising order. -/
def Value.Shaped : Nat → Value → Prop
  | _, .null | _, .bool _ | _, .number _ | _, .string _ => True
  | 0, .array _ | 0, .object _ => False
  | depth + 1, .array items => ∀ v ∈ items, v.Shaped depth
  | depth + 1, .object members =>
    (members.Pairwise fun a b => a.1 < b.1) ∧ ∀ m ∈ members, m.2.Shaped depth

theorem Value.shaped_null (depth : Nat) : Value.null.Shaped depth := by cases depth <;> trivial

/-- The number is an integer. -/
def Number.isWhole : Number → Bool
  | .integer _ => true
  | .double _ => false

mutual

/-- No number in the value is a double. -/
def Value.isWhole : Value → Bool
  | .number n => n.isWhole
  | .array items => itemsWhole items
  | .object members => membersWhole members
  | .null | .bool _ | .string _ => true

/-- No number in the items is a double. -/
def itemsWhole : List Value → Bool
  | [] => true
  | v :: rest => v.isWhole && itemsWhole rest

/-- No number in the members is a double. -/
def membersWhole : List (String × Value) → Bool
  | [] => true
  | (_, v) :: rest => v.isWhole && membersWhole rest

end

theorem itemsWhole_iff {items : List Value} :
    itemsWhole items = true ↔ ∀ v ∈ items, v.isWhole = true := by
  induction items with
  | nil => simp [itemsWhole]
  | cons v rest ih => simp [itemsWhole, ih]

theorem membersWhole_iff {members : List (String × Value)} :
    membersWhole members = true ↔ ∀ m ∈ members, m.2.isWhole = true := by
  induction members with
  | nil => simp [membersWhole]
  | cons m rest ih => obtain ⟨name, v⟩ := m; simp [membersWhole, ih]

/-! ## Objects -/

section
variable {P : Value → Prop} {members : List (String × Value)} {name : String} {v : Value}

/-- Putting a member among others brings in no other one. -/
theorem mem_insertMember {m : String × Value} (h : m ∈ insertMember name v members) :
    m = (name, v) ∨ m ∈ members := by
  induction members with
  | nil => simpa [insertMember] using h
  | cons first rest ih =>
    obtain ⟨k, x⟩ := first
    unfold insertMember at h
    split at h
    next => simpa using h
    next =>
      split at h
      next =>
        rcases List.mem_cons.mp h with new | old
        · exact Or.inl new
        · exact Or.inr (List.mem_cons_of_mem _ old)
      next =>
        rcases List.mem_cons.mp h with rfl | later
        · exact Or.inr List.mem_cons_self
        · exact (ih later).imp_right (List.mem_cons_of_mem _)

/-- Members in rising order stay in order when one more is put among them. -/
theorem pairwise_insertMember (ordered : members.Pairwise fun a b => a.1 < b.1) :
    (insertMember name v members).Pairwise fun a b => a.1 < b.1 := by
  induction members with
  | nil => simp [insertMember]
  | cons first rest ih =>
    obtain ⟨k, x⟩ := first
    obtain ⟨above, orderedRest⟩ := List.pairwise_cons.mp ordered
    unfold insertMember
    split
    next before =>
      refine List.pairwise_cons.mpr ⟨fun m h => ?_, ordered⟩
      rcases List.mem_cons.mp h with rfl | later
      · exact before
      · exact String.lt_trans before (above m later)
    next notBefore =>
      split
      next same => exact List.pairwise_cons.mpr ⟨fun m h => same ▸ above m h, orderedRest⟩
      next differ =>
        refine List.pairwise_cons.mpr ⟨fun m h => ?_, ih orderedRest⟩
        rcases mem_insertMember h with rfl | later
        · -- Neither before `k` nor in its place, so somewhere behind it.
          apply String.not_le.mp
          intro notAfter
          exact differ (String.le_antisymm notAfter (String.not_lt.mp notBefore))
        · exact above m later

/-- A member behind all others stands at the end. -/
theorem insertMember_of_last (above : ∀ m ∈ members, m.1 < name) :
    insertMember name v members = members ++ [(name, v)] := by
  induction members with
  | nil => rfl
  | cons first rest ih =>
    obtain ⟨k, x⟩ := first
    have below : k < name := above (k, x) List.mem_cons_self
    have notBefore : ¬ name < k := String.lt_asymm below
    have differ : name ≠ k := (String.ne_of_lt below).symm
    rw [insertMember, if_neg notBefore, if_neg differ,
      ih fun m h => above m (List.mem_cons_of_mem _ h), List.cons_append]

end

/-- Members that are in order already are held as they are written. -/
theorem ofMembers_of_pairwise {members : List (String × Value)}
    (ordered : members.Pairwise fun a b => a.1 < b.1) :
    Value.ofMembers members = .object members := by
  have held : ∀ before after : List (String × Value),
      (before ++ after).Pairwise (fun a b => a.1 < b.1) →
      after.foldl (fun sorted m => insertMember m.1 m.2 sorted) before = before ++ after := by
    intro before after
    induction after generalizing before with
    | nil => simp
    | cons m rest ih =>
      intro ordered
      have last : ∀ x ∈ before, x.1 < m.1 := by
        intro x hx
        exact (List.pairwise_append.mp ordered).2.2 x hx m List.mem_cons_self
      rw [List.foldl_cons, insertMember_of_last last, ih _ (by simpa using ordered)]
      simp
  rw [Value.ofMembers, held [] members ordered, List.nil_append]

/-- An object of members that nest at most so deep is in order, and nests one deeper. -/
theorem shaped_ofMembers {depth : Nat} {members : List (String × Value)}
    (shaped : ∀ m ∈ members, m.2.Shaped depth) : (Value.ofMembers members).Shaped (depth + 1) := by
  have held : ∀ sorted : List (String × Value), (Value.object sorted).Shaped (depth + 1) →
      (Value.object (members.foldl (fun sorted m => insertMember m.1 m.2 sorted) sorted)).Shaped
        (depth + 1) := by
    induction members with
    | nil => exact fun _ h => h
    | cons m rest ih =>
      intro sorted ⟨ordered, inner⟩
      refine ih (fun x hx => shaped x (List.mem_cons_of_mem _ hx)) _
        ⟨pairwise_insertMember ordered, fun x hx => ?_⟩
      rcases mem_insertMember hx with rfl | old
      · exact shaped m List.mem_cons_self
      · exact inner x old
  exact held [] ⟨List.Pairwise.nil, fun _ h => absurd h List.not_mem_nil⟩

/-! ## Reading -/

/-- Whatever the reader gives satisfies `P`. -/
def Gives {α : Type} (P : α → Prop) (read : Reader α) : Prop :=
  ∀ c x c', read c = .ok (x, c') → P x

/-- What a reader gives of one item, it gives of all of them. -/
theorem gives_items {α : Type} {P : α → Prop} {item : Reader α} (given : Gives P item)
    (fuel : Nat) (first : Bool) : Gives (fun xs => ∀ x ∈ xs, P x) (items item fuel first) := by
  induction fuel generalizing first with
  | zero => intro c xs c' h; cases h
  | succ fuel ih =>
    intro c xs c' h
    simp only [items, bind_eq_ok_iff] at h
    obtain ⟨⟨more, c₁⟩, -, h⟩ := h
    cases more with
    | false =>
      cases h
      exact fun _ h => absurd h List.not_mem_nil
    | true =>
      simp only [if_true, bind_eq_ok_iff] at h
      obtain ⟨⟨x, c₂⟩, isItem, ⟨rest, c₃⟩, isRest, made⟩ := h
      cases made
      intro y hy
      rcases List.mem_cons.mp hy with rfl | later
      · exact given _ _ _ isItem
      · exact ih false _ _ _ isRest y later

/-- And of the value of every member. -/
theorem gives_members {α : Type} {P : α → Prop} {item : Reader α} (given : Gives P item)
    (fuel : Nat) (first : Bool) : Gives (fun ms => ∀ m ∈ ms, P m.2) (members item fuel first) := by
  induction fuel generalizing first with
  | zero => intro c ms c' h; cases h
  | succ fuel ih =>
    intro c ms c' h
    simp only [members, bind_eq_ok_iff] at h
    obtain ⟨⟨more, c₁⟩, -, h⟩ := h
    cases more with
    | false =>
      cases h
      exact fun _ h => absurd h List.not_mem_nil
    | true =>
      simp only [if_true, bind_eq_ok_iff] at h
      obtain ⟨⟨name, c₂⟩, -, c₃, -, ⟨x, c₄⟩, isItem, ⟨rest, c₅⟩, isRest, made⟩ := h
      cases made
      intro m hm
      rcases List.mem_cons.mp hm with rfl | later
      · exact given _ _ _ isItem
      · exact ih false _ _ _ isRest m later

/-- What is read with brackets left for the parts nests one deeper than the parts; without
any left there are no parts. -/
theorem gives_valueWith {P : Value → Prop} {inner : Option (Reader Value)}
    (leaf : ∀ v, v.Shaped 0 → P v)
    (list : ∀ item ∈ inner, ∀ fuel, Gives (fun xs => P (.array xs)) (items item fuel true))
    (object : ∀ item ∈ inner, ∀ fuel,
      Gives (fun ms => P (.ofMembers ms)) (members item fuel true)) :
    Gives P (valueWith inner) := by
  intro c v c' h
  unfold valueWith at h
  dsimp only at h
  -- By the first character: nothing, the three words, a string, the two brackets, a number.
  split at h
  · cases h
  · obtain ⟨c₁, -, made⟩ := bind_eq_ok_iff.mp h
    cases made
    exact leaf _ trivial
  · obtain ⟨c₁, -, made⟩ := bind_eq_ok_iff.mp h
    cases made
    exact leaf _ trivial
  · obtain ⟨c₁, -, made⟩ := bind_eq_ok_iff.mp h
    cases made
    exact leaf _ trivial
  · obtain ⟨⟨s, c₁⟩, -, made⟩ := bind_eq_ok_iff.mp h
    cases made
    exact leaf _ trivial
  · split at h
    · cases h
    · obtain ⟨⟨xs, c₁⟩, isList, closes⟩ := bind_eq_ok_iff.mp h
      obtain ⟨c₂, -, made⟩ := bind_eq_ok_iff.mp closes
      cases made
      exact list _ rfl _ _ _ _ isList
  · split at h
    · cases h
    · obtain ⟨⟨ms, c₁⟩, isObject, closes⟩ := bind_eq_ok_iff.mp h
      obtain ⟨c₂, -, made⟩ := bind_eq_ok_iff.mp closes
      cases made
      exact object _ rfl _ _ _ _ isObject
  · split at h
    · obtain ⟨⟨n, c₁⟩, -, made⟩ := bind_eq_ok_iff.mp h
      cases made
      exact leaf _ trivial
    · cases h

/-- A value without brackets is shaped at any depth. -/
theorem Value.shaped_of_flat {v : Value} (flat : v.Shaped 0) (depth : Nat) : v.Shaped depth := by
  cases v with
  | array | object => cases flat
  | null | bool | number | string => cases depth <;> trivial

/-- **Every value that is read is shaped.** -/
theorem shaped_value (depth : Nat) : Gives (·.Shaped depth) (value depth) := by
  induction depth with
  | zero => exact gives_valueWith (fun _ h => h) (by simp) (by simp)
  | succ depth ih =>
    refine gives_valueWith (fun v flat => v.shaped_of_flat flat _) ?_ ?_
    · intro item isItem fuel c xs c' h
      obtain rfl : value depth = item := by simpa using isItem
      exact gives_items ih fuel true c xs c' h
    · intro item isItem fuel c ms c' h
      obtain rfl : value depth = item := by simpa using isItem
      exact shaped_ofMembers (gives_members ih fuel true c ms c' h)

/-! ## Records -/

section
variable {σ α : Type} {P : σ → Prop}

theorem orHalt_eq_ok_iff {x : Except Flaw α} {a : α} : orHalt x = .ok a ↔ x = .ok a := by
  cases x <;> simp [orHalt]

/-- What every member keeps of a draft is kept by a list of values. -/
theorem listed_keeps {ms : List (Member σ)} (keeps : ∀ m ∈ ms, ∀ d, P d → Gives P (m.read d))
    {first : Bool} {d d' : σ} {c c' : Cursor} (start : P d)
    (h : listed ms first d c = .ok (d', c')) : P d' := by
  induction ms generalizing first d c with
  | nil =>
    cases h
    exact start
  | cons m rest ih =>
    simp only [listed, bind_eq_ok_iff] at h
    obtain ⟨⟨more, c₁⟩, -, h⟩ := h
    cases more with
    | false =>
      cases h
      exact start
    | true =>
      simp only [if_true, bind_eq_ok_iff] at h
      obtain ⟨⟨d₁, c₂⟩, isMember, isRest⟩ := h
      exact ih (fun m hm => keeps m (List.mem_cons_of_mem _ hm))
        (keeps m List.mem_cons_self d start _ _ _ isMember) isRest

/-- And by an object, whatever other members it has. -/
theorem named_keeps {ms : List (Member σ)} (keeps : ∀ m ∈ ms, ∀ d, P d → Gives P (m.read d))
    {fuel : Nat} {first : Bool} {d d' : σ} {c c' : Cursor} (start : P d)
    (h : named ms fuel first d c = .ok (d', c')) : P d' := by
  induction fuel generalizing first d c with
  | zero => cases h
  | succ fuel ih =>
    simp only [named, bind_eq_ok_iff, orHalt_eq_ok_iff] at h
    obtain ⟨⟨more, c₁⟩, -, h⟩ := h
    -- The draft changes with a member that is known and not with one that is skipped.
    cases more with
    | false =>
      cases h
      exact start
    | true =>
      simp only [if_true, bind_eq_ok_iff, orHalt_eq_ok_iff] at h
      obtain ⟨⟨name, c₂⟩, -, h⟩ := h
      dsimp only at h
      split at h
      next =>
        simp only [bind_eq_ok_iff, orHalt_eq_ok_iff] at h
        obtain ⟨c₃, -, c₄, -, isRest⟩ := h
        exact ih start isRest
      next m isMember =>
        split at h
        next => cases h
        next =>
          simp only [bind_eq_ok_iff, orHalt_eq_ok_iff] at h
          obtain ⟨c₃, -, ⟨d₁, c₄⟩, isValue, isRest⟩ := h
          have mem := List.mem_of_find?_eq_some isMember
          exact ih (keeps m mem d start _ _ _ isValue) isRest

/-- What is read between brackets was read inside of them. -/
theorem enclose_eq_ok {b : Bracket} {inside : Except Halt (α × Cursor)} {x : α} {c : Cursor}
    (h : enclose b inside = .ok (x, c)) : ∃ c', inside = .ok (x, c') := by
  unfold enclose at h
  split at h
  next y c' =>
    obtain ⟨c₁, -, made⟩ := bind_eq_ok_iff.mp h
    cases made
    exact ⟨c', rfl⟩
  next => cases h
  next => cases h

/-- A record is finished from a draft of which everything holds that its members keep. -/
theorem gives_record {Q : α → Prop} {shape : Shape σ α}
    (keeps : ∀ m ∈ shape.members, ∀ d, P d → Gives P (m.read d)) (start : P shape.blank)
    (finished : ∀ d x, P d → shape.finish d = .ok x → Q x) : Gives Q shape.read := by
  intro c x c' h
  unfold Shape.read at h
  dsimp only at h
  -- A record is written as a list of its members' values or as an object.
  split at h
  · cases h
  · obtain ⟨c₁, inside⟩ := enclose_eq_ok h
    simp only [Shape.insideList, bind_eq_ok_iff, orHalt_eq_ok_iff] at inside
    obtain ⟨⟨d, c₂⟩, isDraft, inside⟩ := inside
    split at inside
    next y isDone =>
      cases inside
      exact finished d x (listed_keeps keeps start isDraft) isDone
    next => cases inside
  · obtain ⟨c₁, inside⟩ := enclose_eq_ok h
    simp only [Shape.insideObject, bind_eq_ok_iff] at inside
    obtain ⟨⟨d, c₂⟩, isDraft, inside⟩ := inside
    split at inside
    next y isDone =>
      cases inside
      exact finished d x (named_keeps keeps start isDraft) isDone
    next => cases inside
  · unfold refuseType at h
    obtain ⟨⟨it, c₁⟩, -, failed⟩ := bind_eq_ok_iff.mp h
    cases failed

end

end Rendezvous.Json
