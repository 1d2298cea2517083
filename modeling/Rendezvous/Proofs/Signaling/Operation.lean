import Rendezvous.Proofs.Signaling.Fate

/-!
# Operations and what they answer

The relay is asked one thing after the other, and answers each time. Here the operations
are data, so that a run is a list of them, and two runs can be compared by what they
were asked and by what they answered. What an operation makes of the relay is its deed.

`Relay.transcript` is what one code sees of a run: the operations that concern the code, each
with its answer as far as it is about the code. An operation concerns a code if it names
it; if it makes a room, then only if the room gets the code. Time passes for all, a sweep
looks at all, and the readers of a connection concern the code whose guest it is.
-/

namespace Rendezvous

/-- What the relay can be asked. The first eight are to change its rooms; the next four only
look; then come the readers of connections, and time. -/
inductive Operation where
  | create (presenter : String)
  | remove (code : String)
  | evict (maxIdle : Nat)
  | claim (code user : String)
  | clear (code : String)
  | join (code : String) (role : Role) (id : ConnId)
  | leave (code : String) (role : Role) (id : ConnId)
  | send (code : String) (destination : Role) (e : Envelope)
  | check (code : String)
  | look (code : String)
  | count
  | find (user : String)
  | take (id : ConnId) (most : Nat)
  | drop (id : ConnId)
  | wait (milliseconds : Nat)

/-- What the relay can answer. -/
inductive Answer where
  | silence
  | truth (holds : Bool)
  | made (result : Except Fault String)
  | evicted (codes : List String)
  | relayed (result : Except Fault Session.Delivery)
  | room (live? : Option Session)
  | number (n : Nat)
  | membership (found? : Option Membership)
  | frames (taken : List Frame)

/-- A room was made under the code. -/
def Answer.makes (code : String) : Answer → Bool
  | .made (.ok drawn) => drawn == code
  | _ => false

/-- The part of an answer that is about one code. Of a sweep it is whether the room of this
code was taken; other answers are about one code only. -/
def Answer.about (code : String) : Answer → Answer
  | .evicted codes => .evicted (codes.filter (· == code))
  | answer => answer

/-- The part of an answer about a code still tells whether its room was made. -/
theorem Answer.makes_about (code : String) (answer : Answer) :
    (answer.about code).makes code = answer.makes code := by
  cases answer <;> rfl

/-- An answer that makes a room for a code names the code. -/
theorem Answer.result_of_makes {code : String} {result : Except Fault String}
    (makes : (Answer.made result).makes code = true) : result = .ok code := by
  cases result with
  | error fault => cases makes
  | ok drawn => rw [beq_iff_eq.mp makes]

namespace Operation

/-- The code that an operation names. -/
def code? : Operation → Option String
  | .remove code | .claim code _ | .clear code | .join code .. | .leave code .. | .send code ..
  | .check code | .look code => some code
  | _ => none

/-- What an operation does to the relay. -/
def deed : Operation → Deed
  | .create presenter => .create presenter
  | .remove code => .remove code
  | .evict maxIdle => .evict maxIdle
  | .claim code user => .within code (.claim user)
  | .clear code => .within code .clear
  | .join code role id => .within code (.attach role id)
  | .leave code role id => .within code (.detach role id)
  | .send code destination e => .within code (.relay destination e)
  | .check _ | .look _ | .count | .find _ => .nothing
  | .take id most => .take id most
  | .drop id => .drop id
  | .wait milliseconds => .wait milliseconds

/-- An operation that was answered so concerns a code with these guests. -/
def concerns (code : String) (guests : List ConnId) (op : Operation) (answer : Answer) : Bool :=
  match op with
  | .create _ => answer.makes code
  | .evict _ | .wait _ => true
  | .take id _ | .drop id => decide (id ∈ guests)
  | op => op.code? == some code

/-- An operation that names a code concerns that one. -/
theorem concerns_of_code? {op : Operation} {named : String} (names : op.code? = some named)
    (code : String) (guests : List ConnId) (answer : Answer) :
    op.concerns code guests answer = (named == code) := by
  cases op <;> cases names <;> rfl

theorem eq_of_concerns {op : Operation} {named code : String} {guests : List ConnId}
    {answer : Answer} (names : op.code? = some named)
    (concerns : op.concerns code guests answer = true) : named = code := by
  rw [concerns_of_code? names] at concerns
  exact beq_iff_eq.mp concerns

/-- Whether an operation concerns a code can be told by what the answer says about the code. -/
theorem concerns_about (code : String) (guests : List ConnId) (op : Operation) (answer : Answer) :
    op.concerns code guests (answer.about code) = op.concerns code guests answer := by
  cases op with
  | create presenter => exact answer.makes_about code
  | _ => rfl

end Operation

namespace Relay

/-- The relay is asked something: its answer, and what becomes of it. -/
def operate (r : Relay) : Operation → Answer × Relay
  | .create presenter => (.made (r.create presenter).1, (r.create presenter).2)
  | .remove code => (.truth (r.remove code).1, (r.remove code).2)
  | .evict maxIdle => (.evicted (r.evict maxIdle).1, (r.evict maxIdle).2)
  | .claim code user => (.truth (r.claimViewer code user).1, (r.claimViewer code user).2)
  | .clear code => (.silence, r.leaveViewer code)
  | .join code role id => (.truth (r.join code role id).1, (r.join code role id).2)
  | .leave code role id => (.silence, r.leave code role id)
  | .send code destination e =>
    (.relayed (r.send code destination e).1, (r.send code destination e).2)
  | .check code => (.truth (r.isLive code), r)
  | .look code => (.room (r.find? code), r)
  | .count => (.number r.count, r)
  | .find user => (.membership (r.membership? user), r)
  | .take id most => (.frames (r.take id most).1, (r.take id most).2)
  | .drop id => (.silence, r.drop id)
  | .wait milliseconds => (.silence, { r with now := r.now + milliseconds })

/-- What a list of operations makes of the relay. -/
def run : Relay → List Operation → Relay
  | r, [] => r
  | r, op :: rest => (r.operate op).2.run rest

/-- A relay without rooms, and the connections that its clients have opened. -/
def opened (limits : Limits) (candidates : Nat → String) (lines : Lines) : Relay :=
  { empty limits candidates with outlet := ⟨lines, .zero⟩ }

/-- What a code with these guests sees of a run. -/
def transcript (code : String) (guests : List ConnId) :
    Relay → List Operation → List (Operation × Answer)
  | _, [] => []
  | r, op :: rest =>
    let later := transcript code guests (r.operate op).2 rest
    if op.concerns code guests (r.operate op).1 then (op, (r.operate op).1.about code) :: later
    else later

/-- The operations of a run that concern a code with these guests. -/
def heard (code : String) (guests : List ConnId) (r : Relay) (ops : List Operation) :
    List Operation :=
  (transcript code guests r ops).map Prod.fst

/-- What is seen of a run is what is seen of its first operation, and of the rest. -/
theorem transcript_of_heard {code : String} {guests : List ConnId} {r : Relay} {op : Operation}
    (concerns : op.concerns code guests (r.operate op).1 = true) (rest : List Operation) :
    r.transcript code guests (op :: rest) = (op, (r.operate op).1.about code) ::
      (r.operate op).2.transcript code guests rest := by
  rw [transcript, concerns]
  rfl

/-- What does not concern the code is left out of what is seen of the run. -/
theorem transcript_of_unheard {code : String} {guests : List ConnId} {r : Relay} {op : Operation}
    (apart : op.concerns code guests (r.operate op).1 = false) (rest : List Operation) :
    r.transcript code guests (op :: rest) = (r.operate op).2.transcript code guests rest := by
  rw [transcript, apart]
  rfl

/-- The room into which an operation lets a connection, and the connection. -/
def admitted? (r : Relay) : Operation → Option (String × ConnId)
  | .join code _ id => if r.isLive code then some (code, id) else none
  | _ => none

/-- The rooms that connections have joined in a run. -/
def admissions : Relay → List Operation → List (String × ConnId)
  | _, [] => []
  | r, op :: rest => (r.admitted? op).toList ++ (r.operate op).2.admissions rest

/-- The connections that have joined a room of the code in a run. -/
def guests (code : String) (r : Relay) (ops : List Operation) : List ConnId :=
  ((r.admissions ops).filter (·.1 == code)).map Prod.snd

variable {r : Relay} {code : String} {role : Role} {id : ConnId}

/-- The guests are those who were let into a room of the code. -/
theorem mem_guests {ops : List Operation} :
    id ∈ r.guests code ops ↔ (code, id) ∈ r.admissions ops := by
  rw [guests, List.mem_map]
  constructor
  · rintro ⟨⟨other, _⟩, chosen, rfl⟩
    obtain ⟨mem, named⟩ := List.mem_filter.mp chosen
    rw [← beq_iff_eq.mp named]
    exact mem
  · intro mem
    exact ⟨(code, id), List.mem_filter.mpr ⟨mem, beq_iff_eq.mpr rfl⟩, rfl⟩

/-- Who is let into a room of the code is let in by an operation that concerns it. -/
theorem filter_admitted (code : String) (guests : List ConnId) (op : Operation) (answer : Answer) :
    (r.admitted? op).toList.filter (·.1 == code) =
      if op.concerns code guests answer then (r.admitted? op).toList else [] := by
  cases op with
  | join named role id =>
    rw [Operation.concerns_of_code? rfl, admitted?]
    cases r.isLive named with
    | false => exact (ite_self _).symm
    | true => exact List.filter_cons
  | _ => exact (ite_self _).symm

/-- **An operation does its deed**, and otherwise only answers. -/
theorem operate_deed (r : Relay) (op : Operation) : (r.operate op).2 = r.perform op.deed := by
  cases op with
  | claim code user => exact claimViewer_eq ..
  | clear code => exact leaveViewer_eq ..
  | join code role id => exact congrArg Prod.snd (join_eq ..)
  | leave code role id => exact leave_eq ..
  | send code destination e => exact send_eq ..
  | create | remove | evict | check | look | count | find | take | drop | wait => rfl

/-- Whoever sits in a slot after an operation sat there before, or was let in. -/
theorem of_seated_operate (keyed : Keyed r.rooms) {op : Operation}
    (seated : (r.operate op).2.Seated id code role) :
    r.admitted? op = some (code, id) ∨ r.Seated id code role := by
  rw [operate_deed] at seated
  rcases of_seated_perform keyed seated with isAttach | before
  · apply Or.inl
    rw [isAttach] at seated
    obtain ⟨s, live, -⟩ := (seated_within _).mp seated
    have isLive : r.isLive code = true := by rw [Relay.isLive, live, Option.isSome_some]
    cases op <;> cases isAttach
    rw [admitted?, if_pos isLive]
  · exact Or.inr before

end Relay

end Rendezvous
