import Rendezvous.Proofs.Json.Outcome
import Rendezvous.Proofs.Json.Skipping

/-!
# Reading records whose members stand anywhere

What comes of a member does not depend on where it stands: its name, its value taken for a string
or for one of a closed set of names, or its value passed over. From this follows what the loop over
the members of a record makes of its draft at each of them. Members of other names leave the draft
as it is (`goes_other`), a member that is there already ends the loop (`goes_again`), and any other
member goes into the draft as its reader has it (`goes_member`).
-/

namespace Rendezvous.Json

/-! ## Strings where they are wanted -/

/-- Nothing spells two strings. -/
theorem Spells.unique {t s s' : List Char} (spells : Spells t s) (spells' : Spells t s') :
    s = s' := by
  have read := chars_of_spells spells [] (Nat.lt_succ_self _) .start
  rw [chars_of_spells spells' [] (Nat.lt_succ_self _)] at read
  exact (Prod.mk.inj (Except.ok.inj read)).1.symm

/-- A member has one name. -/
theorem Entry.Called.iff {e : Entry} {name : String} (called : e.Called name) (name' : String) :
    e.Called name' ↔ name' = name := by
  constructor
  · exact fun called' => String.toList_inj.mp (Spells.unique called' called)
  · rintro rfl
    exact called

/-- What a string is read as, if it is read at all, is what its body spells. -/
theorem settled_string {t : List Char} (body : Body t) : ∃ outcome : Option String,
    Yields string (t ++ ['"']) outcome ∧ ∀ s, outcome = some s ↔ Spells t s.toList := by
  obtain ⟨s, spells, yields⟩ | ⟨nothing, yields⟩ := yields_string body
  · refine ⟨_, yields, fun s' => ⟨?_, fun spells' => ?_⟩⟩
    · rintro ⟨⟩
      simpa using spells
    · rw [spells.unique spells', String.ofList_toList]
  · exact ⟨_, yields, fun s => ⟨nofun, fun spells => absurd spells (nothing _)⟩⟩

/-- What has the wrong type is refused, or else it is refused before its type is known. -/
theorem exists_refuseType {α : Type} (wanted : String) (c : Cursor) :
    ∃ flaw, (refuseType wanted c : Except Flaw α) = .error flaw := by
  unfold refuseType
  cases found c with
  | error flaw => exact ⟨flaw, rfl⟩
  | ok it => exact ⟨_, rfl⟩

/-- Where a string is wanted, a string is taken for what it spells, and nothing else is taken. -/
theorem settled_wantString {d : Nat} {t : List Char} (text : Text d t) :
    ∃ outcome : Option String, Yields wantString t outcome ∧
      ∀ s, outcome = some s ↔ Spelled t s := by
  obtain ⟨c, more, begins, opening⟩ := text.begins
  by_cases quote : c = '"'
  · obtain ⟨body, isBody, rfl⟩ := opening.string quote
    obtain ⟨outcome, yields, spells⟩ := settled_string isBody
    exact ⟨outcome, yields.cons fun _ _ => rfl,
      fun s => (spells s).trans (spelled_quoted body s).symm⟩
  · refine ⟨none, fun rest _ place => ?_, fun s => ⟨nofun, ?_⟩⟩
    · unfold wantString
      simp only [begins, List.cons_append, atToken_cons opening.notBlank]
      split
      next empty => cases empty
      next isQuote => exact absurd (List.cons.inj isQuote).1 quote
      next => exact exists_refuseType _ _
    · rintro ⟨body, rfl, -⟩
      exact absurd (List.cons.inj begins).1.symm quote

theorem wantString_blank {b : List Char} (blank : Blank b) (rest : List Char) (place : Position) :
    wantString ⟨b ++ rest, place⟩ = wantString ⟨rest, b.foldl Position.step place⟩ := by
  simp only [wantString, atToken_blank blank]

/-! ## Choices -/

section
variable {α : Type} {choices : List (String × α)}

/-- The choice of a name, if there is one. -/
def chosen (choices : List (String × α)) (name : String) : Option α :=
  (choices.find? (·.1 == name)).map (·.2)

theorem choose_of_chosen {name : String} {x : α} (known : chosen choices name = some x)
    (c : Cursor) : choose choices name c = .ok (x, c) := by
  unfold chosen at known
  unfold choose
  cases found : choices.find? (·.1 == name) <;> simp_all

theorem exists_choose {name : String} (unknown : chosen choices name = none) (c : Cursor) :
    ∃ flaw, choose choices name c = .error flaw := by
  unfold chosen at unknown
  unfold choose
  rw [Option.map_eq_none_iff] at unknown
  exact ⟨_, by rw [unknown]; rfl⟩

/-- A string is taken for the choice that it spells. -/
theorem yields_choice {t : List Char} {outcome : Option String}
    (yields : Yields string (t ++ ['"']) outcome) :
    Yields (choice choices) ('"' :: (t ++ ['"'])) (outcome.bind (chosen choices)) := by
  have enters (rest : List Char) (place : Position) :
      choice choices ⟨'"' :: (t ++ ['"']) ++ rest, place⟩ =
        string ⟨t ++ ['"'] ++ rest, place.step '"'⟩ >>= fun r =>
          choose choices r.1 r.2 := rfl
  cases outcome with
  | none =>
    intro rest parted place
    obtain ⟨flaw, refused⟩ := yields rest parted (place.step '"')
    exact ⟨flaw, by rw [enters, refused]; rfl⟩
  | some name =>
    have read (rest : List Char) (parted : Parted rest) (place : Position) :
        choice choices ⟨'"' :: (t ++ ['"']) ++ rest, place⟩ =
          choose choices name ⟨rest, ('"' :: (t ++ ['"'])).foldl Position.step place⟩ := by
      rw [enters, yields rest parted]
      rfl
    rw [Option.bind_some]
    -- The name was read. Now it may still be none of the choices.
    cases known : chosen choices name with
    | some x =>
      intro rest parted place
      rw [read rest parted, choose_of_chosen known]
    | none =>
      intro rest parted place
      rw [read rest parted]
      exact exists_choose known _

/-! ### Choices without content -/

/-- No content is a null. -/
theorem takes_noContent {b : List Char} (blank : Blank b) :
    Takes noContent (b ++ "null".toList) := by
  intro rest parted place
  rw [List.append_assoc, List.foldl_append]
  simp only [noContent, atToken_blank blank]
  rfl

/-- Content is refused, whatever it is. -/
theorem exists_noContent {d : Nat} {t : List Char} (text : Text d t) (other : t ≠ "null".toList)
    {b : List Char} (blank : Blank b) (rest : List Char) (place : Position) :
    ∃ flaw, noContent ⟨b ++ (t ++ rest), place⟩ = .error flaw := by
  obtain ⟨c, more, begins, opening⟩ := text.begins
  have notN : c ≠ 'n' := fun h => other (opening.null h)
  unfold noContent
  simp only [atToken_blank blank, begins, List.cons_append, atToken_cons opening.notBlank]
  split
  next empty => cases empty
  next isN => exact absurd (List.cons.inj isN).1 notN
  next => exact exists_refuseType _ _

/-- What is left to do behind the null of a choice. -/
def endChoice (x : α) (c : Cursor) : Except Flaw (α × Cursor) :=
  let c := c.atToken
  match c.rest with
  | [] => c.fail .endInObject
  | '\x7d' :: _ => .ok (x, c.tail)
  | _ => c.fail .expectedValue

/-- A choice in the form of an object is read as far as its name. -/
theorem choiceObject_core {e : Entry} (named : e.Named) (rest : List Char) (place : Position) :
    choiceObject choices ⟨e.core ++ rest, place⟩ =
      string (Cursor.tail ⟨'"' :: e.behindQuote rest,
        e.name.before.foldl Position.step place⟩) >>= fun (name, c) =>
        choose choices name c >>= fun (x, c) =>
          colon c >>= fun c => noContent c >>= fun c => endChoice x c := by
  rw [e.core_append]
  unfold choiceObject
  simp only [atToken_blank named.clearName.before, atToken_cons (c := '"') (by decide)]
  rfl

variable (choices) in
/-- What comes of its one member comes of a choice in the form of an object, but for the bracket
that closes it. -/
theorem comes_choiceObject {e : Entry} {d : Nat} (named : e.Named) (text : Text d e.value.text) :
    ∃ outcome : Option α, ∀ rest, Parted rest → ∀ place,
      Comes (choiceObject choices ⟨e.core ++ rest, place⟩)
        (fun x => endChoice x ⟨rest, e.core.foldl Position.step place⟩) outcome := by
  obtain ⟨name, isName, -⟩ := settled_string named.body
  cases name with
  | none =>
    refine ⟨none, fun rest _ place => ?_⟩
    obtain ⟨flaw, refused⟩ := string_noName named isName rest
      (e.name.before.foldl Position.step place)
    exact ⟨flaw, by rw [choiceObject_core named, refused]; rfl⟩
  | some name =>
    cases known : chosen choices name with
    | none =>
      refine ⟨none, fun rest _ place => ?_⟩
      obtain ⟨flaw, refused⟩ := exists_choose known _
      rw [choiceObject_core named, string_name named isName]
      exact ⟨flaw, by simp only [bind, Except.bind]; rw [refused]⟩
    | some x =>
      have read (rest : List Char) (place : Position) :
          choiceObject choices ⟨e.core ++ rest, place⟩ =
            noContent ⟨e.value.core ++ rest, e.valuePlace (e.name.before.foldl Position.step place)⟩
              >>= fun c => endChoice x c := by
        rw [choiceObject_core named, string_name named isName]
        simp only [bind, Except.bind, choose_of_chosen known, colon_name named]
      -- A choice without content is written with `null` behind the colon, and with nothing else.
      by_cases isNull : e.value.text = "null".toList
      · refine ⟨some x, fun rest parted place => ?_⟩
        have taken := takes_noContent named.clear.before rest parted
        rw [← isNull] at taken
        have ends : e.value.core.foldl Position.step _ = e.core.foldl Position.step place :=
          e.foldl_core true place
        rw [Comes, read, ← ends]
        exact congrArg (· >>= fun c => endChoice x c) (taken _)
      · refine ⟨none, fun rest parted place => ?_⟩
        obtain ⟨flaw, refused⟩ := exists_noContent text isNull named.clear.before rest
          (e.valuePlace (e.name.before.foldl Position.step place))
        exact ⟨flaw, by rw [read, Padded.core, List.append_assoc, refused]; rfl⟩

variable (choices) in
/-- Between the braces a choice settles, whatever members stand there. -/
theorem settles_choiceObject {d : Nat} {entries : List Entry} {inside : List Char}
    (isInside : Inside Entry.chars entries inside) (named : ∀ e ∈ entries, e.Named)
    (texts : ∀ e ∈ entries, Text d e.value.text) :
    Settles (choiceObject choices) (inside ++ ['\x7d']) := by
  cases isInside with
  | nothing blank =>
    refine ⟨none, fun rest _ place => ?_⟩
    rw [List.append_assoc]
    simp only [choiceObject, atToken_blank blank]
    exact ⟨_, rfl⟩
  | parts e es =>
    have isNamed := named e List.mem_cons_self
    have clear := isNamed.clear.after
    obtain ⟨outcome, comes⟩ := comes_choiceObject choices isNamed (texts e List.mem_cons_self)
    have text (rest : List Char) : e.chars ++ commaBefore Entry.chars es ++ ['\x7d'] ++ rest =
        e.core ++ (e.value.after ++ (commaBefore Entry.chars es ++ '\x7d' :: rest)) := by
      simp [e.chars_eq]
    have parted (rest : List Char) :
        Parted (e.value.after ++ (commaBefore Entry.chars es ++ '\x7d' :: rest)) :=
      parted_blank clear (parted_commaBefore (by decide) es rest)
    cases outcome with
    | none =>
      refine ⟨none, fun rest _ place => ?_⟩
      rw [text]
      exact comes _ (parted rest) place
    | some x =>
      have read (rest : List Char) (place : Position) := comes _ (parted rest) place
      simp only [Comes, endChoice, atToken_blank clear] at read
      -- The one entry has been read. A second one shows by its comma.
      cases es with
      | nil =>
        refine ⟨some x, fun rest _ place => ?_⟩
        rw [text, read]
        simp [commaBefore, atToken_cons (c := '\x7d') (by decide), Cursor.tail, e.chars_eq]
      | cons e' es =>
        refine ⟨none, fun rest _ place => ?_⟩
        rw [text, read]
        simp only [commaBefore, List.flatMap_cons, List.cons_append,
          atToken_cons (c := ',') (by decide)]
        exact ⟨_, rfl⟩

theorem choice_blank {b : List Char} (blank : Blank b) (rest : List Char) (place : Position) :
    choice choices ⟨b ++ rest, place⟩ = choice choices ⟨rest, b.foldl Position.step place⟩ := by
  simp only [choice, atToken_blank blank]

/-- Whatever stands where a choice is wanted, its outcome is settled. -/
theorem settles_choice {d : Nat} {t : List Char} (text : Text d t) :
    Settles (choice choices) t := by
  obtain ⟨c, more, begins, opening⟩ := text.begins
  by_cases quote : c = '"'
  · obtain ⟨body, isBody, rfl⟩ := opening.string quote
    obtain ⟨outcome, yields, -⟩ := settled_string isBody
    exact ⟨_, yields_choice yields⟩
  by_cases brace : c = '\x7b'
  · obtain ⟨entries, inside, d, isInside, named, texts, rfl⟩ := opening.object brace
    obtain ⟨outcome, yields⟩ := settles_choiceObject choices isInside named texts
    exact ⟨outcome, yields.cons fun _ _ => rfl⟩
  · refine ⟨none, fun rest _ place => ?_⟩
    unfold choice
    simp only [begins, List.cons_append, atToken_cons opening.notBlank]
    split
    next empty => cases empty
    next isQuote => exact absurd (List.cons.inj isQuote).1 quote
    next isBrace => exact absurd (List.cons.inj isBrace).1 brace
    next => exact ⟨_, rfl⟩

end

/-! ## Members -/

section
variable {σ : Type} {ms : List (Member σ)} {e : Entry} {name : String}

/-- The loop over named members walks to the brace, and gives the draft as it stands there. -/
theorem walks_named (ms : List (Member σ)) :
    Walks (named ms) '\x7d' fun d c => .ok (d, c) where
  closes := by decide
  blank _ _ _ _ _ _ blank := by simp only [named, toName_blank _ blank]
  stops _ _ _ _ _ := rfl

/-- A member without a proper name ends the loop. -/
theorem goes_noName (isNamed : e.Named) (noName : Yields string (e.name.text ++ ['"']) none)
    (d : σ) : Goes (named ms) e.core d none := by
  intro fuel first rest place _
  obtain ⟨flaw, refused⟩ := string_noName isNamed noName rest
    ((comma first ++ e.name.before).foldl Position.step place)
  refine ⟨.flawed flaw, ?_⟩
  simp only [named, toName_part isNamed, orHalt, bind, Except.bind, if_true, refused]

variable (isNamed : e.Named) (isName : Yields string (e.name.text ++ ['"']) (some name))
include isNamed isName

/-- The loop reads a member as far as its name, and then does what the name asks for. -/
theorem named_core (ms : List (Member σ)) (fuel : Nat) (first : Bool) (d : σ) (rest : List Char)
    (place : Position) :
    named ms (fuel + 1) first d ⟨comma first ++ (e.core ++ rest), place⟩ =
      (let c := e.behindName rest ((comma first ++ e.name.before).foldl Position.step place)
      (ms.find? (·.name == name)).elim
        (do
          let c ← orHalt (colon c)
          let c ← orHalt (skip c)
          named ms fuel false d c)
        fun m =>
          if m.isSet d then throw (.unplaced (.duplicateMember name) c)
          else do
            let c ← orHalt (colon c)
            let r ← orHalt (m.read d c)
            named ms fuel false r.1 r.2) := by
  rw [named, toName_part isNamed]
  simp only [orHalt, bind, Except.bind, if_true, string_name isNamed isName]
  cases ms.find? (·.name == name) with
  | none => rfl
  | some m => rfl

/-- A member of another name is passed over. -/
theorem goes_other {k : Nat} (text : Text k e.value.text) (other : ms.find? (·.name == name) = none)
    (d : σ) : Goes (named ms) e.core d (some d) := by
  intro fuel first rest place parted
  have passed : skip ⟨e.value.core ++ rest, _⟩ = _ :=
    skip_of_text text isNamed.clear.before rest parted
      (e.valuePlace ((comma first ++ e.name.before).foldl Position.step place))
  simp only [named_core isNamed isName, other, Option.elim_none, colon_name isNamed, orHalt, bind,
    Except.bind, passed]
  exact congrArg (fun place => named ms fuel false d ⟨rest, place⟩) (e.foldl_core first place)

variable {m : Member σ} (member : ms.find? (·.name == name) = some m) {d : σ}
include member

/-- A member that the draft has already ends the loop. -/
theorem goes_again (again : m.isSet d = true) : Goes (named ms) e.core d none := by
  intro fuel first rest place _
  simp only [named_core isNamed isName, member, Option.elim_some, again, if_true]
  exact ⟨_, rfl⟩

/-- Any other member goes into the draft. -/
theorem goes_member (fresh : m.isSet d = false) {outcome : Option σ}
    (yields : Yields (m.read d) e.value.core outcome) : Goes (named ms) e.core d outcome := by
  have enters (fuel : Nat) (first : Bool) (rest : List Char) (place : Position) :
      named ms (fuel + 1) first d ⟨comma first ++ (e.core ++ rest), place⟩ =
        orHalt (m.read d ⟨e.value.core ++ rest, e.valuePlace
          ((comma first ++ e.name.before).foldl Position.step place)⟩) >>= fun r =>
            named ms fuel false r.1 r.2 := by
    simp only [named_core isNamed isName, member, Option.elim_some, fresh, Bool.false_eq_true,
      if_false, colon_name isNamed]
    rfl
  cases outcome with
  | some d' =>
    intro fuel first rest place parted
    rw [enters, yields rest parted, e.foldl_core]
    rfl
  | none =>
    intro fuel first rest place parted
    obtain ⟨flaw, refused⟩ := yields rest parted
      (e.valuePlace ((comma first ++ e.name.before).foldl Position.step place))
    exact ⟨.flawed flaw, by rw [enters, refused]; rfl⟩

end

end Rendezvous.Json
