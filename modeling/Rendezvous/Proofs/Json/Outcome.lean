import Mathlib.Tactic.Choose
import Rendezvous.Proofs.Json.Walking

/-!
# Reading values to their end

A value that is kept can be refused: a name or a string that spells nothing, a number out of
range, too many brackets. But this is settled by its text, as where it ends is, and settled in the
same way for two readers that both go deep enough (`agree_of_text`). So a text by itself means
what it means inside another.
-/

namespace Rendezvous.Json

/-- The same comes of the text by either reader. -/
def Agree {α : Type} (read read' : Reader α) (t : List Char) : Prop :=
  ∃ outcome, Yields read t outcome ∧ Yields read' t outcome

/-! ## Loops that keep what they read -/

/-- The loop that reads parts, behind parts that are read already. -/
def collect {α : Type} (loop : Nat → Bool → Reader (List α)) (fuel : Nat) (first : Bool)
    (before : List α) (c : Cursor) : Except Flaw (List α × Cursor) :=
  (loop fuel first c).map fun (xs, c) => (before ++ xs, c)

section
variable {α : Type} {loop : Nat → Bool → Reader (List α)} {close : Char}

/-- A loop that collects walks over blanks and stops at its bracket. -/
theorem walks_collect (closes : isNumeral close = false)
    (blank : ∀ fuel first b rest place, Blank b → loop (fuel + 1) first ⟨b ++ rest, place⟩ =
      loop (fuel + 1) first ⟨rest, b.foldl Position.step place⟩)
    (stops : ∀ fuel first rest place,
      loop (fuel + 1) first ⟨close :: rest, place⟩ = .ok ([], ⟨close :: rest, place⟩)) :
    Walks (collect loop) close fun before c => .ok (before, c) where
  closes := closes
  blank fuel first before b rest place clear := by
    simp only [collect, blank fuel first b rest place clear]
  stops fuel first before rest place := by
    simp only [collect, stops]
    simp [Except.map]

/-- What comes of the loop at one part. -/
def Collects (loop : Nat → Bool → Reader (List α)) (t : List Char) : Option α → Prop
  | some x => ∀ fuel first rest place, Parted rest →
    loop (fuel + 1) first ⟨comma first ++ (t ++ rest), place⟩ =
      (loop fuel false ⟨rest, (comma first ++ t).foldl Position.step place⟩).map
        fun (xs, c) => (x :: xs, c)
  | none => ∀ fuel first rest place, Parted rest →
    ∃ flaw, loop (fuel + 1) first ⟨comma first ++ (t ++ rest), place⟩ = .error flaw

/-- A part that the loop collects comes behind those before it. -/
theorem goes_collect {t : List Char} {outcome : Option α} (collects : Collects loop t outcome)
    (before : List α) : Goes (collect loop) t before (outcome.map fun x => before ++ [x]) := by
  cases outcome with
  | some x =>
    intro fuel first rest place parted
    simp only [collect, collects fuel first rest place parted]
    cases loop fuel false ⟨rest, (comma first ++ t).foldl Position.step place⟩ <;>
      simp [Except.map]
  | none =>
    intro fuel first rest place parted
    obtain ⟨flaw, refused⟩ := collects fuel first rest place parted
    exact ⟨flaw, by simp only [collect, refused]; rfl⟩

end

theorem toItem_blank (first : Bool) {b : List Char} (blank : Blank b) (rest : List Char)
    (place : Position) :
    toItem first ⟨b ++ rest, place⟩ = toItem first ⟨rest, b.foldl Position.step place⟩ := by
  simp only [toItem, atToken_blank blank]

theorem toName_blank (first : Bool) {b : List Char} (blank : Blank b) (rest : List Char)
    (place : Position) :
    toName first ⟨b ++ rest, place⟩ = toName first ⟨rest, b.foldl Position.step place⟩ := by
  simp only [toName, atToken_blank blank]

theorem walks_items {α : Type} (item : Reader α) :
    Walks (collect (items item)) ']' fun before c => .ok (before, c) :=
  walks_collect (by decide) (fun _ _ _ _ _ blank => by simp only [items, toItem_blank _ blank])
    fun _ _ _ _ => rfl

theorem walks_members {α : Type} (item : Reader α) :
    Walks (collect (members item)) '\x7d' fun before c => .ok (before, c) :=
  walks_collect (by decide) (fun _ _ _ _ _ blank => by simp only [members, toName_blank _ blank])
    fun _ _ _ _ => rfl

/-- The loop over items comes to the text of the next one. -/
theorem toItem_part {p : Padded} {d : Nat} (clear : p.Clear) (text : Text d p.text) (first : Bool)
    (rest : List Char) (place : Position) :
    toItem first ⟨comma first ++ (p.core ++ rest), place⟩ =
      .ok (true, ⟨p.text ++ rest, (comma first ++ p.before).foldl Position.step place⟩) := by
  obtain ⟨c, t, begins, opening⟩ := text.begins
  obtain ⟨notBlank, notClosing, -⟩ := opening
  rw [Padded.core, List.append_assoc]
  cases first with
  | true =>
    rw [comma, if_pos rfl, List.nil_append, toItem_blank _ clear.before, begins]
    simp [toItem, atToken_cons notBlank]
  | false =>
    have next : Cursor.atToken ⟨p.before ++ c :: (t ++ rest), place.step ','⟩ =
        ⟨c :: (t ++ rest), p.before.foldl Position.step (place.step ',')⟩ := by
      rw [atToken_blank clear.before, atToken_cons notBlank]
    simp [comma, toItem, atToken_cons (c := ',') (by decide), next, notClosing, begins]

/-- The loop over members comes to the quote that opens the next name. -/
theorem toName_part {e : Entry} (named : e.Named) (first : Bool) (rest : List Char)
    (place : Position) : toName first ⟨comma first ++ (e.core ++ rest), place⟩ =
      .ok (true, ⟨'"' :: e.behindQuote rest,
        (comma first ++ e.name.before).foldl Position.step place⟩) := by
  rw [e.core_append]
  cases first with
  | true =>
    rw [comma, if_pos rfl, List.nil_append, toName_blank _ named.clearName.before]
    simp [toName, atToken_cons (c := '"') (by decide)]
  | false =>
    have next : Cursor.atToken ⟨e.name.before ++ '"' :: e.behindQuote rest, place.step ','⟩ =
        ⟨'"' :: e.behindQuote rest, e.name.before.foldl Position.step (place.step ',')⟩ := by
      rw [atToken_blank named.clearName.before, atToken_cons (by decide)]
    simp [comma, toName, atToken_cons (c := ',') (by decide), next]

/-- One item is collected with whatever the reader makes of it. -/
theorem collects_item {item : Reader Value} {p : Padded} {d : Nat} (clear : p.Clear)
    (text : Text d p.text) {outcome : Option Value} (yields : Yields item p.text outcome) :
    Collects (items item) p.core outcome := by
  cases outcome with
  | some x =>
    intro fuel first rest place parted
    have ends : p.text.foldl Position.step ((comma first ++ p.before).foldl Position.step place) =
        (comma first ++ p.core).foldl Position.step place := by simp [Padded.core]
    simp only [items, toItem_part clear text, bind, Except.bind, if_true, yields rest parted _,
      ends]
    cases items item fuel false ⟨rest, (comma first ++ p.core).foldl Position.step place⟩ <;> rfl
  | none =>
    intro fuel first rest place parted
    obtain ⟨flaw, refused⟩ := yields rest parted
      ((comma first ++ p.before).foldl Position.step place)
    refine ⟨flaw, ?_⟩
    simp only [items, toItem_part clear text, bind, Except.bind, if_true, refused]

/-- What stands behind the name of a member is no part of the name. -/
theorem Entry.parted_behindName {e : Entry} (named : e.Named) (rest : List Char) :
    Parted (e.name.after ++ ':' :: (e.value.core ++ rest)) :=
  parted_blank named.clearName.after (parted_cons (by decide) _)

/-- Where reading stands behind the name of a member. -/
def Entry.behindName (e : Entry) (rest : List Char) (quote : Position) : Cursor :=
  ⟨e.name.after ++ ':' :: (e.value.core ++ rest),
    (e.name.text ++ ['"']).foldl Position.step (quote.step '"')⟩

/-- The name of a member is read up to the colon, if it spells anything. -/
theorem string_name {e : Entry} (named : e.Named) {name : String}
    (isName : Yields string (e.name.text ++ ['"']) (some name)) (rest : List Char)
    (place : Position) : string (Cursor.tail ⟨'"' :: e.behindQuote rest, place⟩) =
      .ok (name, e.behindName rest place) := by
  have read := isName _ (e.parted_behindName named rest) (place.step '"')
  rw [List.append_assoc, List.singleton_append] at read
  exact read

/-- A name that cannot be read ends the reading of a member. -/
theorem string_noName {e : Entry} (named : e.Named)
    (noName : Yields string (e.name.text ++ ['"']) none) (rest : List Char) (place : Position) :
    ∃ flaw, string (Cursor.tail ⟨'"' :: e.behindQuote rest, place⟩) = .error flaw := by
  obtain ⟨flaw, refused⟩ := noName _ (e.parted_behindName named rest) (place.step '"')
  rw [List.append_assoc, List.singleton_append] at refused
  exact ⟨flaw, refused⟩

/-- Where the value of a member begins, if its name begins at the quote here. -/
def Entry.valuePlace (e : Entry) (quote : Position) : Position :=
  (e.name.after ++ [':']).foldl Position.step
    ((e.name.text ++ ['"']).foldl Position.step (quote.step '"'))

/-- Where reading stands behind a member. -/
theorem Entry.foldl_core (e : Entry) (first : Bool) (place : Position) :
    e.value.core.foldl Position.step
      (e.valuePlace ((comma first ++ e.name.before).foldl Position.step place)) =
      (comma first ++ e.core).foldl Position.step place := by
  simp [core, valuePlace]

theorem colon_name {e : Entry} (named : e.Named) (rest : List Char) (quote : Position) :
    colon (e.behindName rest quote) = .ok ⟨e.value.core ++ rest, e.valuePlace quote⟩ :=
  colon_blank named.clearName.after _ _

/-- A member is collected if its name and its value can be read. -/
theorem collects_member {item : Reader Value} {e : Entry} (named : e.Named)
    {name : Option String} (isName : Yields string (e.name.text ++ ['"']) name)
    {outcome : Option Value} (yields : Yields item e.value.core outcome) :
    Collects (members item) e.core (name.bind fun n => outcome.map fun v => (n, v)) := by
  -- The member ends where the name or the value is refused; else the loop goes on behind it.
  cases name with
  | none =>
    intro fuel first rest place parted
    obtain ⟨flaw, refused⟩ := string_noName named isName rest
      ((comma first ++ e.name.before).foldl Position.step place)
    refine ⟨flaw, ?_⟩
    simp only [members, toName_part named, bind, Except.bind, if_true, refused]
  | some n =>
    cases outcome with
    | none =>
      intro fuel first rest place parted
      obtain ⟨flaw, refused⟩ := yields rest parted
        (e.valuePlace ((comma first ++ e.name.before).foldl Position.step place))
      refine ⟨flaw, ?_⟩
      simp only [members, toName_part named, bind, Except.bind, if_true, string_name named isName,
        colon_name named, refused]
    | some v =>
      intro fuel first rest place parted
      simp only [members, toName_part named, bind, Except.bind, if_true, string_name named isName,
        colon_name named, yields rest parted _, e.foldl_core first place]
      cases members item fuel false ⟨rest, (comma first ++ e.core).foldl Position.step place⟩ <;>
        rfl

/-! ## Values -/

theorem valueWith_blank (inner : Option (Reader Value)) {b : List Char} (blank : Blank b)
    (rest : List Char) (place : Position) :
    valueWith inner ⟨b ++ rest, place⟩ =
      valueWith inner ⟨rest, b.foldl Position.step place⟩ := by
  simp only [valueWith, atToken_blank blank]

theorem value_blank (depth : Nat) {b : List Char} (blank : Blank b) (rest : List Char)
    (place : Position) :
    value depth ⟨b ++ rest, place⟩ = value depth ⟨rest, b.foldl Position.step place⟩ := by
  cases depth <;> exact valueWith_blank _ blank rest place

/-- What a reader makes of a text, another one makes of a longer text, if that one does nothing
else than to go where the first begins. -/
theorem Yields.behind {α : Type} {read read' : Reader α} {t t' : List Char} {outcome : Option α}
    (yields : Yields read t outcome)
    (enters : ∀ rest place, ∃ place', t.foldl Position.step place' =
      t'.foldl Position.step place ∧ read' ⟨t' ++ rest, place⟩ = read ⟨t ++ rest, place'⟩) :
    Yields read' t' outcome := by
  cases outcome with
  | some x =>
    intro rest parted place
    obtain ⟨place', ends, same⟩ := enters rest place
    rw [same, yields rest parted, ends]
  | none =>
    intro rest parted place
    obtain ⟨place', -, same⟩ := enters rest place
    rw [same]
    exact yields rest parted place'

/-- Blanks in front change nothing. -/
theorem Yields.blank {α : Type} {read : Reader α} {t : List Char} {outcome : Option α}
    (yields : Yields read t outcome) {b : List Char}
    (blank : ∀ rest place, read ⟨b ++ rest, place⟩ = read ⟨rest, b.foldl Position.step place⟩) :
    Yields read (b ++ t) outcome :=
  yields.behind fun rest place => ⟨_, List.foldl_append.symm, by rw [List.append_assoc, blank]⟩

/-- What begins with a certain character is read from behind it. -/
theorem Yields.cons {α : Type} {read read' : Reader α} {t : List Char} {outcome : Option α}
    (yields : Yields read t outcome) {x : Char}
    (enters : ∀ rest place, read' ⟨x :: rest, place⟩ = read ⟨rest, place.step x⟩) :
    Yields read' (x :: t) outcome :=
  yields.behind fun _ _ => ⟨_, rfl, enters _ _⟩

/-- What is made of a thing afterwards makes no difference to where it ends. -/
theorem Yields.map {α β : Type} {read : Reader α} {t : List Char} {outcome : Option α}
    (yields : Yields read t outcome) (f : α → β) :
    Yields (fun c => (read c).map fun (x, c) => (f x, c)) t (outcome.map f) := by
  cases outcome with
  | some x =>
    intro rest parted place
    exact congrArg (Except.map fun (x, c) => (f x, c)) (yields rest parted place)
  | none =>
    intro rest parted place
    obtain ⟨flaw, refused⟩ := yields rest parted place
    exact ⟨flaw, by simp only [refused]; rfl⟩

/-- The same for a thing that is put into another one. -/
theorem Yields.into {α β : Type} {read : Reader α} {t : List Char} {outcome : Option α}
    (yields : Yields read t outcome) (fill : α → β) :
    Yields (fun c => do
      let (x, c) ← read c
      return (fill x, c)) t (outcome.map fill) := by
  refine (yields.map fill).behind fun rest place => ⟨place, rfl, ?_⟩
  cases read ⟨t ++ rest, place⟩ <;> rfl

/-- Nothing comes of a text besides its outcome. -/
theorem Yields.unique {α : Type} {read : Reader α} {t : List Char} {outcome outcome' : Option α}
    (yields : Yields read t outcome) (yields' : Yields read t outcome') : outcome = outcome' := by
  have parted : Parted [] := by simp [Parted]
  cases outcome <;> cases outcome'
  case none.none => rfl
  case none.some x =>
    obtain ⟨flaw, refused⟩ := yields [] parted .start
    cases refused.symm.trans (yields' [] parted .start)
  case some.none x =>
    obtain ⟨flaw, refused⟩ := yields' [] parted .start
    cases refused.symm.trans (yields [] parted .start)
  case some.some x y =>
    cases (yields [] parted .start).symm.trans (yields' [] parted .start)
    rfl

/-- A word yields its value, whatever is read between brackets. -/
theorem yields_word {t : List Char} (isWord : t ∈ words) :
    ∃ v, ∀ inner, Yields (valueWith inner) t (some v) := by
  simp only [words, List.mem_cons, List.not_mem_nil, or_false] at isWord
  obtain rfl | rfl | rfl := isWord
  · exact ⟨.null, fun _ _ _ _ => rfl⟩
  · exact ⟨.bool true, fun _ _ _ _ => rfl⟩
  · exact ⟨.bool false, fun _ _ _ _ => rfl⟩

/-- What a numeral yields does not depend on what is read between brackets either. -/
theorem yields_number {t : List Char} (numeral : Numeral t) :
    ∃ outcome, ∀ inner, Yields (valueWith inner) t outcome := by
  obtain ⟨outcome, yields⟩ := settles_number numeral
  obtain ⟨c, t, rfl, begins⟩ := numeral.begins
  exact ⟨_, fun inner => (yields.map Value.number).behind fun _ place =>
    ⟨place, rfl, valueWith_of_begins inner begins _ _⟩⟩

theorem valueWith_quote (inner : Option (Reader Value)) (rest : List Char) (place : Position) :
    valueWith inner ⟨'"' :: rest, place⟩ =
      (string ⟨rest, place.step '"'⟩).map fun (s, c) => (.string s, c) := by
  show (string ⟨rest, place.step '"'⟩ >>= fun (s, c) => pure (Value.string s, c)) = _
  cases string ⟨rest, place.step '"'⟩ <;> rfl

/-! ### Brackets -/

section
variable {α : Type} (loop : Nat → Bool → Reader (List α)) (b : Bracket) {f : List α → Value}
  {read : Reader Value} {opens : Char}

theorem collect_nil (fuel : Nat) (first : Bool) (c : Cursor) :
    collect loop fuel first [] c = loop fuel first c := by
  unfold collect
  cases loop fuel first c <;> rfl

/-- What comes of the parts comes of the whole, in a reader that reads the parts and then the
closing bracket. -/
theorem yields_bracketed {inside : List Char} {outcome : Option (List α)}
    (enters : ∀ rest place, read ⟨opens :: rest, place⟩ =
      loop (opens :: rest).length true ⟨rest, place.step opens⟩ >>= fun (xs, c) =>
        b.close c >>= fun c => pure (f xs, c))
    (comes : ∀ rest place, Comes
      (loop (opens :: (inside ++ b.closing :: rest)).length true
        ⟨inside ++ b.closing :: rest, place⟩)
      (fun xs => .ok (xs, ⟨b.closing :: rest, inside.foldl Position.step place⟩)) outcome) :
    Yields read (opens :: (inside ++ [b.closing])) (outcome.map f) := by
  have closes (rest : List Char) (place : Position) :
      b.close ⟨b.closing :: rest, place⟩ = .ok ⟨rest, place.step b.closing⟩ := by cases b <;> rfl
  have text (rest : List Char) : opens :: (inside ++ [b.closing]) ++ rest =
      opens :: (inside ++ b.closing :: rest) := by simp
  cases outcome with
  | some xs =>
    intro rest parted place
    have parts : loop _ true _ = .ok (xs, _) := comes rest (place.step opens)
    rw [text, enters, parts]
    simp [bind, Except.bind, closes, pure, Except.pure]
  | none =>
    intro rest parted place
    obtain ⟨flaw, refused⟩ := comes rest (place.step opens)
    exact ⟨flaw, by rw [text, enters, refused]; rfl⟩

end

/-- An array is made of what comes of its items, if something comes of each. -/
theorem yields_array {item : Reader Value} {d : Nat} {parts : List Padded} {inside : List Char}
    (isInside : Inside Padded.chars parts inside) (clear : ∀ p ∈ parts, p.Clear)
    (texts : ∀ p ∈ parts, Text d p.text) {outcome : Padded → Option Value}
    (yields : ∀ p ∈ parts, Yields item p.text (outcome p)) :
    Yields (valueWith (some item)) ('[' :: (inside ++ [']']))
      ((parts.foldlM (fun before p => (outcome p).map fun v => before ++ [v]) []).map .array) := by
  refine yields_bracketed (items item) .list (fun _ _ => rfl) fun rest place => ?_
  have count := (isInside.fits fun p member => (texts p member).length_pos).1
  have enough : parts.length < ('[' :: (inside ++ ']' :: rest)).length := by
    simp only [List.length_cons, List.length_append]
    omega
  have goes : ∀ p ∈ parts, ∀ before, Goes (collect (items item)) p.core before
      ((outcome p).map fun v => before ++ [v]) := fun p member before =>
    goes_collect (collects_item (clear p member) (texts p member) (yields p member)) before
  rw [← collect_nil (items item)]
  exact (walks_items item).run Padded.chars_eq isInside goes
    (fun p member => (clear p member).after) rest enough [] place

/-- An object is made of its names and of what comes of its values. -/
theorem yields_object {item : Reader Value} {entries : List Entry} {inside : List Char}
    (isInside : Inside Entry.chars entries inside) (named : ∀ e ∈ entries, e.Named)
    {name : Entry → Option String} {outcome : Entry → Option Value}
    (isName : ∀ e ∈ entries, Yields string (e.name.text ++ ['"']) (name e))
    (yields : ∀ e ∈ entries, Yields item e.value.core (outcome e)) :
    Yields (valueWith (some item)) ('\x7b' :: (inside ++ ['\x7d']))
      ((entries.foldlM (fun before e => ((name e).bind fun n => (outcome e).map fun v => (n, v)).map
        fun m => before ++ [m]) []).map .ofMembers) := by
  refine yields_bracketed (members item) .object (fun _ _ => rfl)
    fun rest place => ?_
  have count := (isInside.fits fun e _ => e.length_pos).1
  have enough : entries.length < ('\x7b' :: (inside ++ '\x7d' :: rest)).length := by
    simp only [List.length_cons, List.length_append]
    omega
  have goes : ∀ e ∈ entries, ∀ before, Goes (collect (members item)) e.core before
      (((name e).bind fun n => (outcome e).map fun v => (n, v)).map fun m => before ++ [m]) :=
    fun e member before =>
      goes_collect (collects_member (named e member) (isName e member) (yields e member)) before
  rw [← collect_nil (members item)]
  exact (walks_members item).run Entry.chars_eq isInside goes
    (fun e member => (named e member).clear.after) rest enough [] place

/-- Whatever the text of a string spells, its outcome is settled. -/
theorem settles_string {t : List Char} (body : Body t) : Settles string (t ++ ['"']) :=
  (yields_string body).elim (fun ⟨_, _, yields⟩ => ⟨_, yields⟩) fun ⟨_, yields⟩ => ⟨_, yields⟩

/-- Where no more brackets may be opened, both readers refuse one. -/
theorem refuses_bracket {opens : Char} (isBracket : opens = '[' ∨ opens = '\x7b') (t : List Char) :
    Yields (value 0) (opens :: t) none := by
  intro rest _ place
  obtain rfl | rfl := isBracket <;> exact ⟨_, rfl⟩

/-- What needs no brackets is read alike by all readers. -/
theorem agree_of_leaf {t : List Char} (n m : Nat)
    (leaf : ∃ outcome, ∀ inner, Yields (valueWith inner) t outcome) :
    Agree (value n) (value m) t := by
  obtain ⟨outcome, yields⟩ := leaf
  refine ⟨outcome, ?_, ?_⟩
  · cases n <;> exact yields _
  · cases m <;> exact yields _

/-- **What comes of a text is the same for readers that go deep enough, or equally deep.** The
induction is on the text: what is between two brackets is read with one bracket less to open. -/
theorem agree_of_text {d n m : Nat} {t : List Char} (text : Text d t)
    (deep : n = m ∨ d ≤ n ∧ d ≤ m) : Agree (value n) (value m) t := by
  induction text generalizing n m with
  | word isWord =>
    obtain ⟨v, yields⟩ := yields_word isWord
    exact agree_of_leaf n m ⟨_, yields⟩
  | numeral numeral => exact agree_of_leaf n m (yields_number numeral)
  | string body =>
    obtain ⟨outcome, yields⟩ := settles_string body
    exact agree_of_leaf n m ⟨_, fun inner => (yields.map Value.string).cons (valueWith_quote inner)⟩
  | @array d parts inside isInside clear texts ih =>
    -- A bracket spends one level of depth. With none left both readers refuse it, and the text
    -- need not be looked at.
    match n, m with
    | 0, 0 => exact ⟨none, refuses_bracket (.inl rfl) _, refuses_bracket (.inl rfl) _⟩
    | n + 1, m + 1 =>
      have agree (p : Padded) (member : p ∈ parts) : Agree (value n) (value m) p.text :=
        ih p member (by omega)
      choose! outcome yields yields' using agree
      exact ⟨_, yields_array isInside clear texts yields, yields_array isInside clear texts yields'⟩
    | 0, m + 1 | n + 1, 0 => omega
  | @object d entries inside isInside named texts ih =>
    match n, m with
    | 0, 0 => exact ⟨none, refuses_bracket (.inr rfl) _, refuses_bracket (.inr rfl) _⟩
    | n + 1, m + 1 =>
      have agree (e : Entry) (member : e ∈ entries) : Agree (value n) (value m) e.value.core := by
        have agree : Agree (value n) (value m) e.value.text := ih e member (by omega)
        obtain ⟨outcome, yields, yields'⟩ := agree
        have clear := (named e member).clear.before
        exact ⟨outcome, yields.blank (value_blank n clear), yields'.blank (value_blank m clear)⟩
      -- Names do not depend on the depth, so one outcome serves both readers.
      have settles (e : Entry) (member : e ∈ entries) : Settles string (e.name.text ++ ['"']) :=
        settles_string (named e member).body
      choose! name isName using settles
      choose! outcome yields yields' using agree
      exact ⟨_, yields_object isInside named isName yields,
        yields_object isInside named isName yields'⟩
    | 0, m + 1 | n + 1, 0 => omega

end Rendezvous.Json
