import Rendezvous.Json.Record

/-!
# The two sides of a room

Every room has one presenter and one viewer. `ByRole` holds one thing for each
side, so that whatever is said of a side is said once, with the role as an
argument, and both directions of a session share their rules.
-/

namespace Rendezvous

/-- The two fixed roles of a room. -/
inductive Role where
  | presenter
  | viewer
  deriving DecidableEq, Repr

namespace Role

/-- The role as it is written in messages and in metric labels. -/
def name : Role → String
  | presenter => "presenter"
  | viewer => "viewer"

/-- The other role. -/
def peer : Role → Role
  | presenter => viewer
  | viewer => presenter

@[simp] theorem peer_peer (r : Role) : r.peer.peer = r := by cases r <;> rfl

theorem peer_ne (r : Role) : r.peer ≠ r := by cases r <;> decide

/-- There are two roles, so whatever is not one is the other. -/
theorem eq_or_eq_peer (r s : Role) : s = r ∨ s = r.peer := by cases r <;> cases s <;> decide

/-- Both roles, the presenter first. -/
def all : List Role := [presenter, viewer]

/-- The role of a name. -/
def ofName? (s : String) : Option Role := all.find? (·.name == s)

/-- Reads a role. -/
def read : Json.Reader Role := Json.choice (all.map fun r => (r.name, r))

end Role

/-- One thing for each side of a room. -/
structure ByRole (α : Type) where
  presenter : α
  viewer : α

namespace ByRole

variable {α : Type}

/-- The thing of one side. -/
def get (both : ByRole α) : Role → α
  | .presenter => both.presenter
  | .viewer => both.viewer

/-- The same with another thing on one side. -/
def set (both : ByRole α) (r : Role) (x : α) : ByRole α :=
  match r with
  | .presenter => { both with presenter := x }
  | .viewer => { both with viewer := x }

/-- The same with the thing of one side changed. -/
def modify (both : ByRole α) (r : Role) (f : α → α) : ByRole α := both.set r (f (both.get r))

/-- Two pairs are the same if they are so on both sides. -/
@[ext] theorem ext_get {a b : ByRole α} (h : ∀ r, a.get r = b.get r) : a = b := by
  cases a; cases b
  simpa [get] using And.intro (h .presenter) (h .viewer)

@[simp] theorem get_set_self (both : ByRole α) (r : Role) (x : α) : (both.set r x).get r = x := by
  cases r <;> rfl

@[simp] theorem get_set_peer (both : ByRole α) (r : Role) (x : α) :
    (both.set r x).get r.peer = both.get r.peer := by
  cases r <;> rfl

@[simp] theorem get_modify_self (both : ByRole α) (r : Role) (f : α → α) :
    (both.modify r f).get r = f (both.get r) := by simp [modify]

@[simp] theorem get_modify_peer (both : ByRole α) (r : Role) (f : α → α) :
    (both.modify r f).get r.peer = both.get r.peer := by simp [modify]

end ByRole

end Rendezvous
