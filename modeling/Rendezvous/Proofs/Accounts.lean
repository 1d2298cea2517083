import Rendezvous.Proofs.Outlet

/-!
# What an outlet is known by

An outlet is known by the names of its connections, by the channel of each, and by its tally
(`Outlet.ext_channels`). Names are added only when a connection is opened. The tally is kept
by marks, one for each outcome that is counted, and it makes no difference in which order
they are made (`Tally.markAll_comm`).
-/

namespace Rendezvous

/-! ## Names -/

namespace Lines

/-- The names of the connections that have been opened. -/
def names (lines : Lines) : List ConnId := lines.table.map Prod.fst

/-- The names are those of the connections that were opened. -/
theorem mem_names {lines : Lines} {id : ConnId} : id ∈ lines.names ↔ lines.isOpen id = true := by
  rw [isOpen, names, List.mem_map]
  constructor
  · intro h
    obtain ⟨⟨name, c⟩, mem, same⟩ := h
    cases found : lines.table.lookup id with
    | some d => rfl
    | none =>
      have differ := List.lookup_eq_none_iff.mp found ⟨name, c⟩ mem
      rw [← same] at differ
      simp at differ
  · intro isOpen
    obtain ⟨c, found⟩ := Option.isSome_iff_exists.mp isOpen
    obtain ⟨before, after, isTable, -⟩ := List.lookup_eq_some_iff.mp found
    refine ⟨⟨id, c⟩, ?_, rfl⟩
    rw [isTable]
    exact List.mem_append_right _ List.mem_cons_self

/-- A connection that takes a frame has been opened. -/
theorem mem_names_of_listening {lines : Lines} {id : ConnId}
    (live : (lines.get id).listening = true) : id ∈ lines.names := by
  rw [mem_names]
  cases unopened : lines.isOpen id with
  | true => rfl
  | false =>
    rw [get_of_unopened (ne_true_of_eq_false unopened)] at live
    cases live

/-- A name comes behind the others, if it is new. -/
theorem map_fst_put (id : ConnId) (c : Channel) (table : List (ConnId × Channel)) :
    (put id c table).map Prod.fst =
      if id ∈ table.map Prod.fst then table.map Prod.fst else table.map Prod.fst ++ [id] := by
  induction table with
  | nil => rfl
  | cons entry rest ih =>
    obtain ⟨name, d⟩ := entry
    unfold put
    by_cases same : name = id
    · subst same
      simp
    · have differ : id ≠ name := fun e => same e.symm
      rw [if_neg same, List.map_cons, ih]
      simp only [List.map_cons, List.mem_cons, differ, false_or]
      split <;> rfl

/-- Putting another channel in the place of one leaves the names as they are. -/
theorem names_set {lines : Lines} {id : ConnId} (opened : id ∈ lines.names) (c : Channel) :
    (lines.set id c).names = lines.names := by
  unfold names at opened ⊢
  rw [set, map_fst_put, if_pos opened]

theorem names_take (lines : Lines) (id : ConnId) (count : Nat) :
    (lines.take id count).2.names = lines.names := by
  unfold take
  show (if lines.isOpen id then _ else lines : Lines).names = _
  split
  next opened => exact names_set (mem_names.mpr opened) _
  next => rfl

theorem names_drop (lines : Lines) (id : ConnId) : (lines.drop id).names = lines.names := by
  unfold drop
  split
  next opened => exact names_set (mem_names.mpr opened) _
  next => rfl

theorem unused_not_mem (lines : Lines) : lines.unused ∉ lines.names := by
  rw [mem_names, isOpen, lookup_unused]
  decide

/-- A connection is opened under a name that comes behind all others. -/
theorem names_open (lines : Lines) (c : Channel) :
    (lines.set lines.unused c).names = lines.names ++ [lines.unused] := by
  have unused := lines.unused_not_mem
  unfold names at unused ⊢
  rw [set, map_fst_put, if_neg unused]

/-- Which name is unused depends on the names alone. -/
theorem unused_congr {lines lines' : Lines} (same : lines.names = lines'.names) :
    lines.unused = lines'.unused := by
  have fold : ∀ lines : Lines, lines.unused =
      ⟨lines.names.foldl (fun n id => max n (id.index + 1)) 0⟩ := by
    intro lines
    unfold names unused
    rw [List.foldl_map]
  rw [fold, fold, same]

/-- Lines are known by their names and their channels. -/
theorem ext_names {lines lines' : Lines} (same : lines.names = lines'.names)
    (nodup : lines.names.Nodup) (channels : ∀ id, lines.get id = lines'.get id) :
    lines = lines' := by
  -- With no name twice, looking the names up one by one gives the table again.
  have listed : ∀ lines : Lines, lines.names.Nodup →
      lines.table = lines.names.map fun id => (id, lines.get id) := by
    intro lines
    obtain ⟨table⟩ := lines
    induction table with
    | nil => intro _; rfl
    | cons entry rest ih =>
      obtain ⟨name, c⟩ := entry
      intro distinct
      obtain ⟨fresh, restDistinct⟩ := List.nodup_cons.mp distinct
      have self : get ⟨(name, c) :: rest⟩ name = c := by
        rw [get, List.lookup_cons_self]
        rfl
      have later : ∀ id ∈ rest.map Prod.fst, get ⟨(name, c) :: rest⟩ id = get ⟨rest⟩ id := by
        intro id mem
        have differ : id ≠ name := by
          intro same
          subst same
          exact fresh mem
        rw [get, get, List.lookup_cons, beq_false_of_ne differ]
      have isRest : rest = (rest.map Prod.fst).map fun id => (id, get ⟨rest⟩ id) :=
        ih restDistinct
      show (name, c) :: rest =
        (name :: rest.map Prod.fst).map fun id => (id, get ⟨(name, c) :: rest⟩ id)
      rw [List.map_cons, self, List.map_congr_left fun id mem => by rw [later id mem], ← isRest]
  have tables : lines.table = lines'.table := by
    rw [listed lines nodup, listed lines' (same ▸ nodup), same]
    exact List.map_congr_left fun id _ => by rw [channels]
  obtain ⟨table⟩ := lines
  obtain ⟨table'⟩ := lines'
  exact congrArg Lines.mk tables

end Lines

/-! ## Marks -/

/-- Changes that commute for each thing do so for both of them, whichever sides they are on. -/
theorem ByRole.modify_comm {α : Type} {f g : α → α} (comm : ∀ x, g (f x) = f (g x))
    {r r' : Role} (both : ByRole α) :
    (both.modify r f).modify r' g = (both.modify r' g).modify r f := by
  obtain ⟨presenter, viewer⟩ := both
  cases r <;> cases r' <;> simp [modify, set, get, comm]

namespace Tally

/-- One outcome that is counted. -/
inductive Mark where
  | delivered (destination : Role) (kind : Kind)
  | refused (refusal : Refusal)
  | queued (destination : Role) (overflowed : Bool)

/-- The mark of an envelope that was not taken. -/
def Mark.isRefusal : Mark → Bool
  | .refused _ => true
  | _ => false

/-- The tally with one more mark. -/
def mark (t : Tally) : Mark → Tally
  | .delivered destination kind => t.delivered destination kind
  | .refused refusal => t.refused refusal
  | .queued destination overflowed => t.queued destination overflowed

/-- The tally with more marks. -/
def markAll (t : Tally) (marks : List Mark) : Tally := marks.foldl mark t

/-- The order of two marks makes no difference. -/
theorem mark_comm (t : Tally) (a b : Mark) : (t.mark a).mark b = (t.mark b).mark a := by
  -- Marks of different sorts touch different fields. Two of one sort may touch the same number,
  -- and then both add one to it.
  cases a with
  | delivered destination kind =>
    cases b with
    | delivered destination' kind' =>
      have kinds : ∀ x : ByKind Nat,
          (x.modify kind (· + 1)).modify kind' (· + 1)
            = (x.modify kind' (· + 1)).modify kind (· + 1) := by
        intro x
        cases kind <;> cases kind' <;> rfl
      have same : ((t.relayed.modify destination (·.modify kind (· + 1))).modify destination'
            (·.modify kind' (· + 1)))
          = (t.relayed.modify destination' (·.modify kind' (· + 1))).modify destination
            (·.modify kind (· + 1)) := ByRole.modify_comm kinds _
      simp only [mark, delivered, same]
    | refused refusal => cases refusal <;> rfl
    | queued destination' overflowed => cases overflowed <;> rfl
  | refused refusal =>
    cases b with
    | delivered destination kind => cases refusal <;> rfl
    | refused refusal' => cases refusal <;> cases refusal' <;> rfl
    | queued destination overflowed => cases refusal <;> cases overflowed <;> rfl
  | queued destination overflowed =>
    cases b with
    | delivered destination' kind => cases overflowed <;> rfl
    | refused refusal => cases refusal <;> cases overflowed <;> rfl
    | queued destination' overflowed' =>
      have counts : ∀ x : ByRole Nat,
          (x.modify destination (· + 1)).modify destination' (· + 1)
            = (x.modify destination' (· + 1)).modify destination (· + 1) :=
        ByRole.modify_comm fun _ => rfl
      unfold mark queued
      cases overflowed <;> cases overflowed' <;> simp [counts]

/-- It does not matter which of two accounts is entered first. -/
theorem markAll_comm (t : Tally) (before after : List Mark) :
    (t.markAll before).markAll after = (t.markAll after).markAll before := by
  unfold markAll
  rw [← List.foldl_append, ← List.foldl_append]
  exact List.perm_append_comm.foldl_eq' (fun a _ b _ t => mark_comm t a b) t

end Tally

/-- How the envelopes that are pushed on a channel for a role are counted. -/
def Channel.marks (c : Channel) (destination : Role) : List Envelope → List Tally.Mark
  | [] => []
  | e :: rest =>
    (match c.refusal? with
      | none => .delivered destination e.kind
      | some refusal => .refused refusal) :: (c.offer (.envelope e)).marks destination rest

namespace Outlet

/-- A push does not count; what it comes to is counted by whoever pushes. -/
theorem tally_push (o : Outlet) (id : ConnId) (f : Frame) : (o.push id f).2.tally = o.tally := by
  cases h : (o.channel id).refusal? with
  | none => rw [push_of_none h]
  | some refusal => rw [push_of_refusal h]

theorem tally_closeAll (o : Outlet) (ids : List ConnId) (reason : String) :
    (ids.foldl (fun o id => o.close id reason) o).tally = o.tally := by
  induction ids generalizing o with
  | nil => rfl
  | cons id rest ih =>
    rw [List.foldl_cons, ih]
    exact tally_push ..

/-- **What is pushed for a role is marked in order**, and the refusals are those among the
marks. -/
theorem deliverAll_marks (o : Outlet) (id : ConnId) (r : Role) (es : List Envelope) :
    (o.deliverAll id r es).2.tally = o.tally.markAll ((o.channel id).marks r es) ∧
    (o.deliverAll id r es).1 = ((o.channel id).marks r es).countP Tally.Mark.isRefusal := by
  induction es generalizing o with
  | nil => exact ⟨rfl, rfl⟩
  | cons e rest ih =>
    have offered : (o.deliver id r e).2.channel id = (o.channel id).offer (.envelope e) := by
      rw [channel_deliver, channel_push_self]
    have later := ih (o.deliver id r e).2
    rw [offered] at later
    rw [deliverAll, Channel.marks]
    -- The channel decides on the first message, and its state after that on the others.
    cases h : (o.channel id).refusal? with
    | none =>
      have isOk := deliver_of_none h r e
      have tally : (o.deliver id r e).2.tally = o.tally.mark (.delivered r e.kind) := by
        rw [deliver, push_of_none h]
        rfl
      rw [tally] at later
      split
      next delivered =>
        rw [delivered] at later
        refine ⟨later.1, ?_⟩
        rw [List.countP_cons_of_neg (by simp [Tally.Mark.isRefusal]), ← later.2]
      next failed =>
        rw [failed] at isOk
        cases isOk
    | some refusal =>
      have isError := deliver_of_refusal h r e
      have tally : (o.deliver id r e).2.tally = o.tally.mark (.refused refusal) := by
        rw [deliver, push_of_refusal h]
        rfl
      rw [tally] at later
      split
      next delivered =>
        rw [delivered] at isError
        cases isError
      next failed =>
        rw [failed] at later
        refine ⟨later.1, ?_⟩
        rw [List.countP_cons_of_pos rfl, ← later.2]

/-- A push opens no connection. -/
theorem names_push (o : Outlet) (id : ConnId) (f : Frame) :
    (o.push id f).2.lines.names = o.lines.names := by
  cases h : (o.channel id).refusal? with
  | none =>
    rw [push_of_none h]
    refine Lines.names_set (Lines.mem_names_of_listening ?_) _
    cases live : (o.channel id).listening with
    | true => exact live
    | false =>
      rw [Channel.refusal?, live] at h
      cases h
  | some refusal => rw [push_of_refusal h]

theorem names_closeAll (o : Outlet) (ids : List ConnId) (reason : String) :
    (ids.foldl (fun o id => o.close id reason) o).lines.names = o.lines.names := by
  induction ids generalizing o with
  | nil => rfl
  | cons id rest ih =>
    rw [List.foldl_cons, ih]
    exact names_push ..

theorem names_deliverAll (o : Outlet) (id : ConnId) (r : Role) (es : List Envelope) :
    (o.deliverAll id r es).2.lines.names = o.lines.names := by
  induction es generalizing o with
  | nil => rfl
  | cons e rest ih => rw [deliverAll_cons, ih, lines_deliver, names_push]

/-- **An outlet is known** by its names, its channels and its tally. -/
theorem ext_channels {o o' : Outlet} (names : o.lines.names = o'.lines.names)
    (nodup : o.lines.names.Nodup) (channels : ∀ id, o.channel id = o'.channel id)
    (tally : o.tally = o'.tally) : o = o' := by
  have lines := Lines.ext_names names nodup channels
  obtain ⟨lines, tally⟩ := o
  cases lines
  cases tally
  rfl

end Outlet

end Rendezvous
