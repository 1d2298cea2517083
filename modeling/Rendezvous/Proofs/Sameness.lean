import Rendezvous.Envelope

/-!
# Saying the same

Whether a cached envelope is replayed is decided by comparing it with what has
just been flushed, so the comparison has to be trusted in both directions. It
accepts every envelope against itself, payloads of any depth included
(`same_self`), and it never takes one envelope for another of a different kind or
track (`kind_eq_of_same`, `track_eq_of_same`). It is coarser than equality only in
payloads: the two zeros among the doubles are one value.
-/

namespace Rendezvous

namespace Json

theorem Number.same_self (n : Number) : n.same n = true := by
  cases n with
  | integer m => exact beq_self_eq_true m
  | double x =>
    show (x.bits == x.bits || (x.isZero && x.isZero)) = true
    rw [beq_self_eq_true, Bool.true_or]

mutual

/-- Every value is the same as itself. -/
theorem Value.same_self : ∀ v : Value, v.same v = true
  | .null => by rw [Value.same]
  | .bool b => by rw [Value.same]; exact beq_self_eq_true b
  | .number n => by rw [Value.same]; exact n.same_self
  | .string s => by rw [Value.same]; exact beq_self_eq_true s
  | .array items => by rw [Value.same]; exact sameItems_self items
  | .object members => by rw [Value.same]; exact sameMembers_self members

theorem sameItems_self : ∀ items : List Value, sameItems items items = true
  | [] => by rw [sameItems]
  | v :: rest => by rw [sameItems, Value.same_self v, sameItems_self rest, Bool.true_and]

theorem sameMembers_self : ∀ members : List (String × Value), sameMembers members members = true
  | [] => by rw [sameMembers]
  | (name, v) :: rest => by
    rw [sameMembers, beq_self_eq_true, Value.same_self v, sameMembers_self rest]
    rfl

end

end Json

namespace Envelope

/-- Every envelope says the same as itself. -/
theorem same_self (e : Envelope) : e.same e = true := by
  have payload : (e.payload == e.payload) = true := e.payload.same_self
  rw [same, beq_self_eq_true, payload, beq_self_eq_true]
  rfl

instance : ReflBEq Envelope := ⟨fun {e} => e.same_self⟩

theorem kind_eq_of_same {a b : Envelope} (h : (a == b) = true) : a.kind = b.kind := by
  have all : a.same b = true := h
  rw [same, Bool.and_eq_true, Bool.and_eq_true] at all
  exact eq_of_beq all.1.1

theorem track_eq_of_same {a b : Envelope} (h : (a == b) = true) : a.track = b.track := by
  have all : a.same b = true := h
  rw [same, Bool.and_eq_true] at all
  exact eq_of_beq all.2

/-- The envelope is of the kind and about the track. -/
def isAbout (k : Kind) (track : String) (e : Envelope) : Bool := e.kind == k && e.track == track

theorem isAbout_iff {k : Kind} {track : String} {e : Envelope} :
    e.isAbout k track = true ↔ e.kind = k ∧ e.track = track := by
  rw [isAbout, Bool.and_eq_true, beq_iff_eq, beq_iff_eq]

/-- Envelopes that say the same are about the same. -/
theorem isAbout_eq_of_same {a b : Envelope} (h : (a == b) = true) (k : Kind) (track : String) :
    a.isAbout k track = b.isAbout k track := by
  rw [isAbout, isAbout, kind_eq_of_same h, track_eq_of_same h]

end Envelope

end Rendezvous
