import Rendezvous.Fault
import Rendezvous.Proofs.Envelope
import Rendezvous.Proofs.Json.Records

/-!
# The members that make an envelope

An envelope may stand in many texts. Its members come in any order, with any escapes in their
names and any blanks between them, and among other members, which may hold anything and may repeat
each other. Only the three members that make it matter, and each of them may be there once
(`heeds_three_members`).

The loop over the members goes from draft to draft as `enter` has it (`goes_enter`), and comes
through if and only if no slot of the draft is filled twice (`foldlM_enter_iff`). Both are about
lists of members. Of their texts only what comes of each is left, which is settled beforehand
(`exists_makes`).
-/

namespace Rendezvous.Envelope

open Json (Entry Text Spells Spelled ObjectText Yields Goes Comes Blank Inside)

/-! ## Which members there are -/

/-- No member has the name. -/
def Never (name : String) (entries : List Entry) : Prop := ∀ e ∈ entries, ¬ e.Called name

/-- Just one member has the name, and it is as said. -/
def Given (name : String) (said : Entry → Prop) (entries : List Entry) : Prop :=
  ∃ before e after, entries = before ++ e :: after ∧ e.Called name ∧ said e ∧
    Never name (before ++ after)

/-- More than one member has the name. -/
def Repeated (name : String) (entries : List Entry) : Prop :=
  ∃ e e', [e, e'].Sublist entries ∧ e.Called name ∧ e'.Called name

section
variable {name : String} {said : Entry → Prop} {e : Entry} {entries : List Entry}

/-- A member of the name that comes first is the one that is given, if none follows. -/
theorem given_cons_called (called : e.Called name) :
    Given name said (e :: entries) ↔ said e ∧ Never name entries := by
  constructor
  · rintro ⟨before, x, after, split, -, isSaid, never⟩
    cases before with
    | nil =>
      obtain ⟨rfl, rfl⟩ := List.cons.inj split
      exact ⟨isSaid, never⟩
    | cons y before =>
      obtain ⟨rfl, -⟩ := List.cons.inj split
      exact absurd called (never e List.mem_cons_self)
  · rintro ⟨isSaid, never⟩
    exact ⟨[], e, entries, rfl, called, isSaid, never⟩

/-- Members of other names can be left out of account. -/
theorem given_cons_other (other : ¬ e.Called name) :
    Given name said (e :: entries) ↔ Given name said entries := by
  constructor
  · rintro ⟨before, x, after, split, called, isSaid, never⟩
    cases before with
    | nil =>
      obtain ⟨rfl, -⟩ := List.cons.inj split
      exact absurd called other
    | cons y before =>
      obtain ⟨rfl, rfl⟩ := List.cons.inj split
      exact ⟨before, x, after, rfl, called, isSaid, fun z h => never z (List.mem_cons_of_mem _ h)⟩
  · rintro ⟨before, x, after, rfl, called, isSaid, never⟩
    exact ⟨e :: before, x, after, rfl, called, isSaid, List.forall_mem_cons.mpr ⟨other, never⟩⟩

/-- The one member of the name is every member of the name. -/
theorem Given.said_of_mem (given : Given name said entries) (member : e ∈ entries)
    (called : e.Called name) : said e := by
  obtain ⟨before, x, after, rfl, -, isSaid, never⟩ := given
  rcases List.mem_append.mp member with h | h
  · exact absurd called (never e (List.mem_append_left _ h))
  · rcases List.mem_cons.mp h with rfl | h
    · exact isSaid
    · exact absurd called (never e (List.mem_append_right _ h))

theorem Given.imp {said' : Entry → Prop} (given : Given name said entries)
    (weaker : ∀ e ∈ entries, said e → said' e) : Given name said' entries := by
  obtain ⟨before, x, after, rfl, called, isSaid, never⟩ := given
  exact ⟨before, x, after, rfl, called, weaker x (by simp) isSaid, never⟩

theorem Given.not_never (given : Given name said entries) : ¬ Never name entries := by
  obtain ⟨before, x, after, rfl, called, -⟩ := given
  exact fun never => never x (by simp) called

theorem Repeated.not_never (repeated : Repeated name entries) : ¬ Never name entries := by
  obtain ⟨x, _, sublist, called, -⟩ := repeated
  exact fun never => never x (sublist.subset List.mem_cons_self) called

/-- Nothing is given by a name that stands there twice. -/
theorem Repeated.not_given (repeated : Repeated name entries) : ¬ Given name said entries := by
  obtain ⟨x, y, sublist, isX, isY⟩ := repeated
  induction entries with
  | nil => cases sublist
  | cons e entries ih =>
    intro given
    cases sublist with
    | cons _ later =>
      by_cases called : e.Called name
      · exact ((given_cons_called called).mp given).2 x (later.subset List.mem_cons_self) isX
      · exact ih later ((given_cons_other called).mp given)
    | cons_cons _ later =>
      exact ((given_cons_called isX).mp given).2 y (later.subset List.mem_cons_self) isY

end

/-! ## From draft to draft -/

/-- What comes of a member, whatever it is taken for. -/
structure Contents where
  name : Option String
  kind : Option Kind
  payload : Option Json.Value
  track : Option String
  deriving Inhabited

/-- A slot takes what was found, unless it is taken. -/
def Draft.put {α : Type} (slot found : Option α) (fill : α → Draft) : Option Draft :=
  if slot.isSome then none else found.map fill

/-- The draft behind a member. -/
def enter (d : Draft) (c : Contents) : Option Draft :=
  c.name.bind fun name =>
    if name = "type" then Draft.put d.kind c.kind fun k => { d with kind := some k }
    else if name = "payload" then
      Draft.put d.payload c.payload fun v => { d with payload := some v }
    else if name = "trackType" then Draft.put d.track c.track fun t => { d with track := some t }
    else some d

/-- What a member makes of a slot: it fills the slot, which has to be free for it, if it has the
name that the slot is for, and leaves it alone otherwise. -/
def Filled {α : Type} (called : Prop) (content slot slot' : Option α) : Prop :=
  (called → slot = none ∧ content ≠ none ∧ slot' = content) ∧ (¬ called → slot' = slot)

/-- A member goes into the draft if it has a name and each slot takes it. -/
theorem enter_eq_some_iff {e : Entry} {c : Contents}
    (isName : ∀ s, c.name = some s ↔ e.Called s) (d d' : Draft) :
    enter d c = some d' ↔ (∃ s, e.Called s) ∧ Filled (e.Called "type") c.kind d.kind d'.kind ∧
      Filled (e.Called "payload") c.payload d.payload d'.payload ∧
      Filled (e.Called "trackType") c.track d.track d'.track := by
  simp only [← isName, enter, Draft.put, Filled]
  obtain ⟨name, kind, payload, track⟩ := c
  obtain ⟨kind₁, payload₁, track₁⟩ := d
  obtain ⟨kind₂, payload₂, track₂⟩ := d'
  -- The name tells which slot it is about, and that slot must not have been filled before.
  cases name with
  | none => simp
  | some name =>
    simp only [Option.bind_some, Option.some.injEq]
    by_cases isType : name = "type"
    · subst isType
      cases kind₁ <;> cases kind <;> simp [eq_comm]
    by_cases isPayload : name = "payload"
    · subst isPayload
      cases payload₁ <;> cases payload <;> simp [eq_comm]
    by_cases isTrack : name = "trackType"
    · subst isTrack
      cases track₁ <;> cases track <;> simp [eq_comm]
    · simp [isType, isPayload, isTrack, eq_comm]

/-- What becomes of a slot of the draft: it is filled by the one member of the name, or it stays as
it is without one. -/
def Fills {α : Type} (name : String) (found : Entry → Option α) (slot last : Option α)
    (entries : List Entry) : Prop :=
  Never name entries ∧ last = slot ∨
    slot = none ∧ ∃ x, last = some x ∧ Given name (fun e => found e = some x) entries

section
variable {α : Type} {name : String} {found : Entry → Option α} {slot last : Option α} {e : Entry}
  {entries : List Entry}

theorem fills_nil : Fills name found slot last [] ↔ last = slot := by
  simp [Fills, Never, Given]

/-- A member fills its slot or leaves it alone, and then the others do what they do. -/
theorem fills_cons : Fills name found slot last (e :: entries) ↔
    ∃ mid, Filled (e.Called name) (found e) slot mid ∧ Fills name found mid last entries := by
  by_cases called : e.Called name
  · have notNever : ¬ Never name (e :: entries) := fun never => never e List.mem_cons_self called
    simp only [Fills, Filled, given_cons_called called, notNever, called, true_implies,
      not_true_eq_false, false_implies, and_true, false_and, false_or]
    constructor
    · rintro ⟨free, x, rfl, isFound, never⟩
      exact ⟨some x, ⟨free, by simp [isFound], isFound.symm⟩, .inl ⟨never, rfl⟩⟩
    · rintro ⟨mid, ⟨free, some_, rfl⟩, ⟨never, rfl⟩ | ⟨none_, -⟩⟩
      · obtain ⟨x, isFound⟩ := Option.ne_none_iff_exists'.mp some_
        exact ⟨free, x, isFound, isFound, never⟩
      · exact absurd none_ some_
  · have never : Never name (e :: entries) ↔ Never name entries := by
      simp [Never, called]
    simp [Fills, Filled, given_cons_other called, never, called]

end

/-- **The loop over the members comes through if every member has a name and no slot is filled
twice.** -/
theorem foldlM_enter_iff {contents : Entry → Contents} {entries : List Entry}
    (isName : ∀ e ∈ entries, ∀ s, (contents e).name = some s ↔ e.Called s) (d d' : Draft) :
    entries.foldlM (fun d e => enter d (contents e)) d = some d' ↔
      (∀ e ∈ entries, ∃ s, e.Called s) ∧
        Fills "type" (fun e => (contents e).kind) d.kind d'.kind entries ∧
        Fills "payload" (fun e => (contents e).payload) d.payload d'.payload entries ∧
        Fills "trackType" (fun e => (contents e).track) d.track d'.track entries := by
  induction entries generalizing d with
  | nil =>
    obtain ⟨kind, payload, track⟩ := d
    obtain ⟨kind', payload', track'⟩ := d'
    simp [fills_nil, eq_comm]
  | cons e entries ih =>
    obtain ⟨isFirst, isRest⟩ := List.forall_mem_cons.mp isName
    rw [List.foldlM_cons, List.forall_mem_cons, fills_cons, fills_cons, fills_cons]
    refine Option.bind_eq_some_iff.trans ?_
    simp only [ih isRest, enter_eq_some_iff isFirst]
    constructor
    · rintro ⟨mid, ⟨called, kind, payload, track⟩, all, kinds, payloads, tracks⟩
      exact ⟨⟨called, all⟩, ⟨_, kind, kinds⟩, ⟨_, payload, payloads⟩, ⟨_, track, tracks⟩⟩
    · rintro ⟨⟨called, all⟩, ⟨k, kind, kinds⟩, ⟨p, payload, payloads⟩, ⟨t, track, tracks⟩⟩
      exact ⟨⟨k, p, t⟩, ⟨called, kind, payload, track⟩, all, kinds, payloads, tracks⟩

/-! ## What comes of a member -/

/-- These are the outcomes of reading the member, each way it may be read. A string is taken for
what it spells, and a payload for what it is by itself. -/
structure Makes (e : Entry) (c : Contents) : Prop where
  name : Yields Json.string (e.name.text ++ ['"']) c.name
  isName : ∀ s, c.name = some s ↔ e.Called s
  kind : Yields Kind.read e.value.core c.kind
  isKind : ∀ body, e.value.text = '"' :: (body ++ ['"']) →
    ∀ k : Kind, c.kind = some k ↔ Spells body k.name.toList
  payload : Yields (Json.value payloadDepth) e.value.core c.payload
  isPayload : ∀ v, Text payloadDepth e.value.text →
    Json.Value.ofText (String.ofList e.value.text) = .ok v → c.payload = some v
  track : Yields Json.wantString e.value.core c.track
  isTrack : ∀ s, c.track = some s ↔ Spelled e.value.text s

/-- A kind is chosen by its own name, and by no other. -/
theorem chosen_name (s : String) (k : Kind) :
    Json.chosen (Kind.all.map fun k => (k.name, k)) s = some k ↔ s = k.name := by
  constructor
  · intro isKind
    simp only [Json.chosen, Option.map_eq_some_iff] at isKind
    obtain ⟨⟨name, k'⟩, found, rfl⟩ := isKind
    have member := List.mem_of_find?_eq_some found
    have same := List.find?_some found
    simp only [List.mem_map, Prod.mk.injEq, beq_iff_eq] at member same
    obtain ⟨_, _, rfl, rfl⟩ := member
    exact same.symm
  · rintro rfl
    cases k <;> rfl

/-- A string is taken for the kind whose name it spells. What else is taken for a kind does not
matter here, but how far it is read is settled. -/
theorem settled_kind {d : Nat} {t : List Char} (text : Text d t) :
    ∃ outcome, Yields Kind.read t outcome ∧ ∀ body, t = '"' :: (body ++ ['"']) →
      ∀ k : Kind, outcome = some k ↔ Spells body k.name.toList := by
  obtain ⟨c, more, begins, opening⟩ := text.begins
  by_cases quote : c = '"'
  · obtain ⟨body, isBody, rfl⟩ := opening.string quote
    obtain ⟨outcome, yields, spells⟩ := Json.settled_string isBody
    refine ⟨_, Json.yields_choice yields, fun body' same k => ?_⟩
    obtain rfl : body = body' := by simpa using same
    rw [← spells, Option.bind_eq_some_iff]
    simp only [chosen_name]
    exact ⟨fun ⟨_, isSome, isName⟩ => isName ▸ isSome, fun isSome => ⟨_, isSome, rfl⟩⟩
  · obtain ⟨outcome, yields⟩ := Json.settles_choice text
    refine ⟨outcome, yields, fun body same => absurd ?_ quote⟩
    exact (List.cons.inj (begins.symm.trans same)).1

/-- A text by itself is what its outcome means. -/
theorem eq_some_of_ofText {t : List Char} {outcome : Option Json.Value}
    (yields : Yields (Json.value Json.maxDepth) t outcome) {v : Json.Value}
    (isValue : Json.Value.ofText (String.ofList t) = .ok v) : outcome = some v := by
  obtain ⟨⟨x, c⟩, read, ends⟩ := bind_eq_ok_iff.mp isValue
  have parted : Json.Parted [] := by simp [Json.Parted]
  have whole : Json.Cursor.start (String.ofList t) = ⟨t ++ [], .start⟩ := by
    simp [Json.Cursor.start]
  rw [whole] at read
  cases outcome with
  | none =>
    obtain ⟨flaw, refused⟩ := yields [] parted .start
    cases refused.symm.trans read
  | some y =>
    cases (yields [] parted .start).symm.trans read
    cases ends
    rfl

/-- What a text is by itself it is as a payload, if it does not nest deeper than a payload may. -/
theorem settled_payload {d : Nat} {t : List Char} (text : Text d t) :
    ∃ outcome, Yields (Json.value payloadDepth) t outcome ∧ ∀ v, Text payloadDepth t →
      Json.Value.ofText (String.ofList t) = .ok v → outcome = some v := by
  obtain ⟨outcome, yields, -⟩ := Json.agree_of_text text (.inl (rfl : payloadDepth = payloadDepth))
  refine ⟨outcome, yields, fun v fits isValue => ?_⟩
  obtain ⟨outcome', alone, inside⟩ : Json.Agree (Json.value Json.maxDepth) _ t :=
    Json.agree_of_text fits (.inr ⟨by decide, Nat.le_refl payloadDepth⟩)
  rw [yields.unique inside]
  exact eq_some_of_ofText alone isValue

/-- Every member makes something of the draft, be it a refusal. -/
theorem exists_makes {e : Entry} {d : Nat} (named : e.Named) (text : Text d e.value.text) :
    ∃ c, Makes e c := by
  have clear := named.clear.before
  obtain ⟨name, isName, names⟩ := Json.settled_string named.body
  obtain ⟨kind, isKind, kinds⟩ := settled_kind text
  obtain ⟨payload, isPayload, payloads⟩ := settled_payload text
  obtain ⟨track, isTrack, tracks⟩ := Json.settled_wantString text
  exact ⟨⟨name, kind, payload, track⟩,
    { name := isName
      isName := names
      kind := isKind.blank (Json.choice_blank clear)
      isKind := kinds
      payload := isPayload.blank (Json.value_blank payloadDepth clear)
      isPayload := payloads
      track := isTrack.blank (Json.wantString_blank clear)
      isTrack := tracks }⟩

/-- A member whose name is known goes where it belongs. -/
theorem goes_put {α : Type} {e : Entry} (named : e.Named) {name : String}
    (isName : Yields Json.string (e.name.text ++ ['"']) (some name)) {m : Json.Member Draft}
    (member : members.find? (·.name == name) = some m) {d : Draft} {slot found : Option α}
    {fill : α → Draft} (isSet : m.isSet d = slot.isSome)
    (yields : Yields (m.read d) e.value.core (found.map fill)) :
    Goes (Json.named members) e.core d (Draft.put slot found fill) := by
  unfold Draft.put
  split
  next again => exact Json.goes_again named isName member (isSet.trans again)
  next fresh =>
    rw [Bool.not_eq_true] at fresh
    exact Json.goes_member named isName member (isSet.trans fresh) yields

/-- The loop goes from draft to draft. -/
theorem goes_enter {e : Entry} {c : Contents} {depth : Nat} (makes : Makes e c) (named : e.Named)
    (text : Text depth e.value.text) (d : Draft) :
    Goes (Json.named members) e.core d (enter d c) := by
  have isName := makes.name
  -- The reader and the draft agree by name: none, one of the three, or another.
  unfold enter
  cases known : c.name with
  | none =>
    rw [known] at isName
    exact Json.goes_noName named isName d
  | some name =>
    rw [known] at isName
    rw [Option.bind_some]
    split
    next isType =>
      subst isType
      exact goes_put named isName rfl rfl (makes.kind.into _)
    next notType =>
      split
      next isPayload =>
        subst isPayload
        exact goes_put named isName rfl rfl (makes.payload.into _)
      next notPayload =>
        split
        next isTrack =>
          subst isTrack
          exact goes_put named isName rfl rfl (makes.track.into _)
        next notTrack =>
          have other : members.find? (·.name == name) = none := by
            simp [members, Ne.symm notType, Ne.symm notPayload, Ne.symm notTrack]
          exact Json.goes_other named isName text other d

/-! ## Whole texts -/

/-- A refusal inside an object is a refusal of the object. -/
theorem exists_enclose {α : Type} (b : Json.Bracket) (halt : Json.Halt) :
    ∃ flaw, Json.enclose (α := α) b (.error halt) = .error flaw := by
  cases halt <;> exact ⟨_, rfl⟩

/-- The inside of an object, up to the bracket that closes it. -/
theorem comes_insideObject {entries : List Entry} {inside : List Char}
    (isInside : Inside Entry.chars entries inside) (named : ∀ e ∈ entries, e.Named)
    (texts : ∀ e ∈ entries, ∃ d, Text d e.value.text) {contents : Entry → Contents}
    (makes : ∀ e ∈ entries, Makes e (contents e)) (after : List Char) (place : Json.Position) :
    Comes (shape.insideObject ⟨inside ++ '\x7d' :: after, place⟩)
      (fun x => .ok (x, ⟨'\x7d' :: after, inside.foldl Json.Position.step place⟩))
      ((entries.foldlM (fun d e => enter d (contents e)) {}).bind fun d => d.finish.toOption) := by
  have count := (isInside.fits fun e _ => e.length_pos).1
  have enough : entries.length < (inside ++ '\x7d' :: after).length := by
    simp only [List.length_cons, List.length_append]
    omega
  have goes (e : Entry) (member : e ∈ entries) (d : Draft) :
      Goes (Json.named members) e.core d (enter d (contents e)) := by
    obtain ⟨depth, text⟩ := texts e member
    exact goes_enter (makes e member) (named e member) text d
  -- The loop makes of the members what entering them one by one makes of a blank draft.
  have run := (Json.walks_named members).run Entry.chars_eq isInside goes
    (fun e member => (named e member).clear.after) after enough {} place
  unfold Json.Shape.insideObject
  show Comes (Json.named members (inside ++ '\x7d' :: after).length true {}
    ⟨inside ++ '\x7d' :: after, place⟩ >>= _) _ _
  cases fold : entries.foldlM (fun d e => enter d (contents e)) {} with
  | none =>
    rw [fold] at run
    obtain ⟨halt, halts⟩ := run
    exact ⟨halt, by rw [halts]; rfl⟩
  | some d =>
    rw [fold] at run
    have stops : Json.named members _ true {} _ = .ok (d, _) := run
    rw [stops, Option.bind_some]
    have same : shape.finish d = d.finish := rfl
    simp only [bind, Except.bind, same]
    cases d.finish with
    | ok x => rfl
    | error lacking => exact ⟨_, rfl⟩

/-- **An object is an envelope if and only if the loop over its members comes to the end, and the
draft can be finished.** -/
theorem decode_eq_ok_iff {entries : List Entry} {s : String} {contents : Entry → Contents}
    (text : ObjectText entries s.toList) (makes : ∀ e ∈ entries, Makes e (contents e))
    (x : Envelope) : decode s = .ok x ↔
      ∃ d, entries.foldlM (fun d e => enter d (contents e)) {} = some d ∧ d.finish = .ok x := by
  generalize isText : s.toList = t at text
  obtain ⟨blankBefore, isInside, named, texts, blankAfter⟩ := text
  rename_i before inside after
  let place := (before.foldl Json.Position.step .start).step '\x7b'
  -- Between the braces it is settled; in front and behind there are only blanks.
  have comes := comes_insideObject isInside named texts makes after place
  have enters : shape.read (.start s) =
      Json.enclose .object (shape.insideObject ⟨inside ++ '\x7d' :: after, place⟩) := by
    simp only [Json.Cursor.start, isText, Json.Shape.read, Json.atToken_blank blankBefore,
      Json.atToken_cons (c := '\x7b') (by decide)]
    rfl
  have same : (∃ d, entries.foldlM (fun d e => enter d (contents e)) {} = some d ∧
      d.finish = .ok x) ↔ ((entries.foldlM (fun d e => enter d (contents e)) {}).bind
        fun d => d.finish.toOption) = some x := by
    rw [Option.bind_eq_some_iff]
    refine exists_congr fun d => and_congr_right fun _ => ?_
    cases d.finish <;> simp [Except.toOption]
  rw [same]
  unfold decode Json.decode
  rw [enters]
  cases outcome : (entries.foldlM (fun d e => enter d (contents e)) {}).bind
      fun d => d.finish.toOption with
  | none =>
    rw [outcome] at comes
    obtain ⟨halt, halts⟩ := comes
    obtain ⟨flaw, refused⟩ := exists_enclose (α := Envelope) .object halt
    rw [halts, refused]
    simp [bind, Except.bind]
  | some y =>
    rw [outcome] at comes
    have stops : shape.insideObject _ = .ok (y, _) := comes
    have nothing (place : Json.Position) :
        Json.Cursor.atToken ⟨after, place⟩ = ⟨[], after.foldl Json.Position.step place⟩ := by
      have passed := Json.atToken_blank blankAfter [] place
      rwa [List.append_nil] at passed
    rw [stops]
    show (if (Json.Cursor.atToken ⟨after, _⟩).rest.isEmpty then Except.ok y else _) = _ ↔ _
    rw [nothing]
    simp

/-- The members say just this, each that matters at most once: a payload that is left out is null,
and a track that is left out is the empty one. -/
structure Means (entries : List Entry) (x : Envelope) : Prop where
  named : ∀ e ∈ entries, ∃ name, e.Called name
  kind : Given "type" (fun e => Spelled e.value.text x.kind.name) entries
  payload : Given "payload" (fun e => Text 126 e.value.text ∧
      Json.Value.ofText (String.ofList e.value.text) = .ok x.payload) entries ∨
    Never "payload" entries ∧ x.payload = .null
  track : Given "trackType" (fun e => Spelled e.value.text x.track) entries ∨
    Never "trackType" entries ∧ x.track = ""

/-- The members say nothing that could be an envelope. -/
inductive Botched (entries : List Entry) : Prop
  | nameless {e : Entry} (member : e ∈ entries) (noName : ∀ name, ¬ e.Called name)
  | kindless (never : Never "type" entries)
  | repeated {name : String} (matters : name ∈ ["type", "payload", "trackType"])
      (repeated : Repeated name entries)
  | otherKind {e : Entry} {body : List Char} (member : e ∈ entries) (called : e.Called "type")
      (isString : e.value.text = '"' :: (body ++ ['"']))
      (other : ∀ kind : Kind, ¬ Spelled e.value.text kind.name)
  | noTrack {e : Entry} (member : e ∈ entries) (called : e.Called "trackType")
      (notString : ∀ s, ¬ Spelled e.value.text s)

section
variable {entries : List Entry} {contents : Entry → Contents}
  (makes : ∀ e ∈ entries, Makes e (contents e))
include makes

/-- What the members say is what comes of them. -/
theorem exists_draft_of_means {x : Envelope} (means : Means entries x) :
    ∃ d, entries.foldlM (fun d e => enter d (contents e)) {} = some d ∧ d.finish = .ok x := by
  have kind : Fills "type" (fun e => (contents e).kind) none (some x.kind) entries :=
    .inr ⟨rfl, _, rfl, means.kind.imp fun e member spelled => by
      obtain ⟨body, isString, spells⟩ := spelled
      exact ((makes e member).isKind body isString _).mpr spells⟩
  -- A payload and a track may be missing, and then stand for null and for an empty name.
  obtain ⟨payload, fillsPayload, isPayload⟩ : ∃ payload,
      Fills "payload" (fun e => (contents e).payload) none payload entries ∧
        payload.getD .null = x.payload := by
    obtain given | ⟨never, isNull⟩ := means.payload
    · exact ⟨some x.payload, .inr ⟨rfl, _, rfl, given.imp fun e member ⟨fits, isValue⟩ =>
        (makes e member).isPayload _ fits isValue⟩, rfl⟩
    · exact ⟨none, .inl ⟨never, rfl⟩, isNull.symm⟩
  obtain ⟨track, fillsTrack, isTrack⟩ : ∃ track,
      Fills "trackType" (fun e => (contents e).track) none track entries ∧
        track.getD "" = x.track := by
    obtain given | ⟨never, isEmpty⟩ := means.track
    · exact ⟨some x.track, .inr ⟨rfl, _, rfl, given.imp fun e member spelled =>
        ((makes e member).isTrack _).mpr spelled⟩, rfl⟩
    · exact ⟨none, .inl ⟨never, rfl⟩, isEmpty.symm⟩
  have isName := fun e member => (makes e member).isName
  refine ⟨⟨some x.kind, payload, track⟩, (foldlM_enter_iff isName _ _).mpr
    ⟨means.named, kind, fillsPayload, fillsTrack⟩, ?_⟩
  simp only [Draft.finish, isPayload, isTrack]

/-- Nothing comes of members that say nothing. -/
theorem not_draft_of_botched (botched : Botched entries) {x : Envelope} :
    ¬ ∃ d, entries.foldlM (fun d e => enter d (contents e)) {} = some d ∧ d.finish = .ok x := by
  rintro ⟨d, fold, finished⟩
  have isName := fun e member => (makes e member).isName
  obtain ⟨named, kind, payload, track⟩ := (foldlM_enter_iff isName _ _).mp fold
  -- A slot is filled by one member or none, so no name that matters can be repeated.
  have notRepeated {α : Type} {name : String} {found : Entry → Option α} {last : Option α}
      (fills : Fills name found none last entries) : ¬ Repeated name entries := fun repeated =>
    fills.elim (fun h => repeated.not_never h.1) fun ⟨_, _, _, given⟩ => repeated.not_given given
  cases botched with
  | nameless member noName =>
    obtain ⟨name, called⟩ := named _ member
    exact noName name called
  | kindless never =>
    obtain ⟨-, noKind⟩ | ⟨-, k, -, given⟩ := kind
    · simp [Draft.finish, noKind] at finished
    · exact given.not_never never
  | repeated matters repeated =>
    simp only [List.mem_cons, List.not_mem_nil, or_false] at matters
    obtain rfl | rfl | rfl := matters
    · exact notRepeated kind repeated
    · exact notRepeated payload repeated
    · exact notRepeated track repeated
  | @otherKind e body member called isString other =>
    obtain ⟨never, -⟩ | ⟨-, k, -, given⟩ := kind
    · exact never e member called
    · have isKind := given.said_of_mem member called
      have spells := ((makes e member).isKind body isString k).mp isKind
      exact other k ⟨body, isString, spells⟩
  | @noTrack e member called notString =>
    obtain ⟨never, -⟩ | ⟨-, s, -, given⟩ := track
    · exact never e member called
    · exact notString s (((makes e member).isTrack s).mp (given.said_of_mem member called))

end

/-- **Decoding heeds three members and nothing else.** Whatever order the members of an object
stand in, whatever stands between and around them, however their names and strings are spelled, and
whatever other members hold: what the three say is what is decoded, and if they cannot be meant for
an envelope, the text is refused as a malformed message. -/
theorem heeds_three_members {entries : List Entry} {s : String}
    (text : ObjectText entries s.toList) :
    (∀ x, Means entries x → ofText s = .ok x) ∧
      (Botched entries → ∃ reason,
        ofText s = .error (.validation "Malformed message" [("payload", reason)])) := by
  have settled : ∀ e ∈ entries, ∃ c, Makes e c := by
    generalize s.toList = t at text
    obtain ⟨-, -, named, texts, -⟩ := text
    intro e member
    obtain ⟨d, isText⟩ := texts e member
    exact exists_makes (named e member) isText
  choose! contents makes using settled
  have decoded := decode_eq_ok_iff text makes
  constructor
  · intro x means
    exact ofText_eq_ok_iff.mpr ((decoded x).mpr (exists_draft_of_means makes means))
  · intro botched
    unfold ofText
    cases outcome : decode s with
    | ok x => exact absurd ((decoded x).mp outcome) (not_draft_of_botched makes botched)
    | error flaw => exact ⟨flaw.message, rfl⟩

/-! ### Members in none of the written order -/

section
open Json (spells_of_plain)

/-- A member that does not matter, with half a surrogate pair in it. -/
def strayMember : Entry := ⟨⟨[], "x".toList, []⟩, ⟨[], "\"\\ud800\"".toList, []⟩⟩

/-- A name that is spelled with an escape, and a blank behind it. -/
def typeMember : Entry := ⟨⟨[], "\\u0074ype".toList, [' ']⟩, ⟨[], "\"offer\"".toList, []⟩⟩

def trackMember : Entry := ⟨⟨['\n'], "trackType".toList, []⟩, ⟨[], "\"a\\/b\"".toList, []⟩⟩

def payloadMember : Entry := ⟨⟨[], "payload".toList, []⟩, ⟨[' '], "[null]".toList, []⟩⟩

def scattered : List Entry := [strayMember, typeMember, trackMember, payloadMember]

def scatteredText : String :=
  "\x7b\"x\":\"\\ud800\",\"\\u0074ype\" :\"offer\",\n\"trackType\":\"a\\/b\"," ++
    "\"payload\": [null]\x7d "

/-- The same with one of the members twice. -/
def doubledText : String :=
  "\x7b\"\\u0074ype\" :\"offer\",\"x\":\"\\ud800\",\"\\u0074ype\" :\"offer\",\n" ++
    "\"trackType\":\"a\\/b\",\"payload\": [null]\x7d "

theorem called_strayMember : strayMember.Called "x" := spells_of_plain (by decide)

theorem called_typeMember : typeMember.Called "type" := by
  have code := Json.Code.mk (a := '0') (b := '0') (c := '7') (d := '4') rfl rfl rfl rfl
  have rest : Spells "ype".toList "ype".toList := spells_of_plain (by decide)
  have spells := Spells.code code rfl rfl rest
  exact spells

theorem called_trackMember : trackMember.Called "trackType" := spells_of_plain (by decide)

theorem called_payloadMember : payloadMember.Called "payload" := spells_of_plain (by decide)

theorem spelled_typeMember : Spelled typeMember.value.text "offer" :=
  ⟨"offer".toList, rfl, spells_of_plain (by decide)⟩

theorem spelled_trackMember : Spelled trackMember.value.text "a/b" := by
  have slash : Json.shortEscape? '/' = some '/' := rfl
  have rest : Spells ['b'] ['b'] := spells_of_plain (by decide)
  exact ⟨"a\\/b".toList, rfl, .plain (by decide) (.short slash rest)⟩

theorem text_payloadMember : Text 126 payloadMember.value.text := by
  have isInside : Inside Json.Padded.chars [⟨[], "null".toList, []⟩] "null".toList := .parts _ []
  have text : Text 126 ('[' :: ("null".toList ++ [']'])) :=
    .array isInside (List.forall_mem_singleton.mpr ⟨by decide, by decide⟩)
      (List.forall_mem_singleton.mpr (.word (by decide)))
  exact text

theorem named_scattered : ∀ e ∈ scattered, e.Named := by
  simp only [scattered, List.forall_mem_cons]
  refine ⟨⟨called_strayMember.body, ?_, ?_⟩, ⟨called_typeMember.body, ?_, ?_⟩,
    ⟨called_trackMember.body, ?_, ?_⟩, ⟨called_payloadMember.body, ?_, ?_⟩, by simp⟩
  all_goals exact ⟨by decide, by decide⟩

theorem texts_scattered : ∀ e ∈ scattered, Text 126 e.value.text := by
  simp only [scattered, List.forall_mem_cons]
  refine ⟨?_, ?_, ?_, text_payloadMember, by simp⟩
  · have code := Json.Code.mk (a := 'd') (b := '8') (c := '0') (d := '0') rfl rfl rfl rfl
    have text := Text.string (d := 126) (.code code .nil)
    exact text
  · obtain ⟨body, isString, spells⟩ := spelled_typeMember
    exact isString ▸ .string spells.body
  · obtain ⟨body, isString, spells⟩ := spelled_trackMember
    exact isString ▸ .string spells.body

/-- The stray member means nothing. -/
theorem means_scattered : Means scattered ⟨.offer, .array [.null], "a/b"⟩ := by
  constructor
  · simp only [scattered, List.forall_mem_cons]
    exact ⟨⟨_, called_strayMember⟩, ⟨_, called_typeMember⟩, ⟨_, called_trackMember⟩,
      ⟨_, called_payloadMember⟩, by simp⟩
  · refine ⟨[strayMember], _, [trackMember, payloadMember], rfl, called_typeMember,
      spelled_typeMember, ?_⟩
    simp [Never, called_strayMember.iff, called_trackMember.iff, called_payloadMember.iff]
  · refine .inl ⟨[strayMember, typeMember, trackMember], _, [], rfl, called_payloadMember,
      ⟨text_payloadMember, rfl⟩, ?_⟩
    simp [Never, called_strayMember.iff, called_trackMember.iff, called_typeMember.iff]
  · refine .inl ⟨[strayMember, typeMember], _, [payloadMember], rfl, called_trackMember,
      spelled_trackMember, ?_⟩
    simp [Never, called_strayMember.iff, called_typeMember.iff, called_payloadMember.iff]

theorem objectText_scattered : ObjectText scattered scatteredText.toList := by
  have isInside : Inside Entry.chars scattered _ := .parts _ _
  have text := ObjectText.mk (by decide : Blank []) isInside named_scattered
    (fun e member => ⟨_, texts_scattered e member⟩) (by decide : Blank [' '])
  exact Eq.subst (motive := ObjectText scattered) (by decide +kernel) text

theorem mem_scattered : typeMember ∈ scattered := by simp [scattered]

theorem objectText_doubled : ObjectText (typeMember :: scattered) doubledText.toList := by
  have isInside : Inside Entry.chars (typeMember :: scattered) _ := .parts _ _
  have text := ObjectText.mk (by decide : Blank []) isInside
    (List.forall_mem_cons.mpr ⟨named_scattered _ mem_scattered, named_scattered⟩)
    (List.forall_mem_cons.mpr ⟨⟨_, texts_scattered _ mem_scattered⟩,
      fun e member => ⟨_, texts_scattered e member⟩⟩) (by decide : Blank [' '])
  exact Eq.subst (motive := ObjectText (typeMember :: scattered)) (by decide +kernel) text

theorem botched_doubled : Botched (typeMember :: scattered) :=
  .repeated List.mem_cons_self ⟨typeMember, typeMember,
    .cons_cons _ (List.singleton_sublist.mpr mem_scattered), called_typeMember, called_typeMember⟩

/-- One text is an envelope, with its members in disorder. The other has a type too many. -/
theorem heeds_three_members_scattered :
    ofText scatteredText = .ok ⟨.offer, .array [.null], "a/b"⟩ ∧
      ∃ reason, ofText doubledText =
        .error (.validation "Malformed message" [("payload", reason)]) :=
  ⟨(heeds_three_members objectText_scattered).1 _ means_scattered,
    (heeds_three_members objectText_doubled).2 botched_doubled⟩

end

end Rendezvous.Envelope
