import Rendezvous.Proofs.Json.Reading
import Rendezvous.Proofs.Json.Shape

/-!
# Values read back

What is written for a value is read as that value, provided it is shaped as read values are
and holds no double (`reads_print`). The induction is on the brackets that are left, as in
the reader: the parts of an array or an object have one bracket less.

The items of an array and the members of an object are read by two loops that differ in what
a part looks like. `Loops` is what they have in common, and the induction over the parts is
made there, once (`Loops.reads`).
-/

namespace Rendezvous.Json

/-! ## Loops over parts -/

/-- Parts, a comma before each. -/
def followed {α : Type} (write : α → List Char) (xs : List α) : List Char :=
  xs.flatMap fun x => ',' :: write x

/-- The loop reads one part after the other, the first with no comma before it, and stops at
the bracket that closes. -/
structure Loops {α : Type} (loop : Nat → Bool → Reader (List α)) (write : α → List Char)
    (close : Char) (x : α) : Prop where
  first : ∀ fuel rest place, Parted rest → loop (fuel + 1) true ⟨write x ++ rest, place⟩ =
    (loop fuel false ⟨rest, (write x).foldl Position.step place⟩).map fun (xs, c) => (x :: xs, c)
  next : ∀ fuel rest place, Parted rest → loop (fuel + 1) false ⟨',' :: (write x ++ rest), place⟩ =
    (loop fuel false ⟨rest, (write x).foldl Position.step (place.step ',')⟩).map
      fun (xs, c) => (x :: xs, c)

section
variable {α : Type} {loop : Nat → Bool → Reader (List α)} {write : α → List Char} {close : Char}

/-- Behind a part comes a comma or the bracket, and neither goes on with a number. -/
theorem parted_followed (xs : List α) (closes : isNumeral close = false) (rest : List Char) :
    Parted (followed write xs ++ close :: rest) := by
  cases xs with
  | nil => exact parted_cons closes _
  | cons x xs => exact parted_cons (by decide) _

variable (stops : ∀ fuel first rest place,
    loop (fuel + 1) first ⟨close :: rest, place⟩ = .ok ([], ⟨close :: rest, place⟩))
  (closes : isNumeral close = false)
include stops closes

/-- Behind the first part the others are read back, each with the comma before it. -/
theorem Loops.reads_more {xs : List α} (loops : ∀ x ∈ xs, Loops loop write close x) {fuel : Nat}
    (enough : xs.length < fuel) (rest : List Char) :
    Reads (loop fuel false) (followed write xs) xs (close :: rest) := by
  induction xs generalizing fuel with
  | nil =>
    intro place
    obtain ⟨fuel, rfl⟩ : ∃ n, fuel = n + 1 := ⟨fuel - 1, by omega⟩
    exact stops ..
  | cons x xs ih =>
    intro place
    obtain ⟨fuel, rfl⟩ : ∃ n, fuel = n + 1 := ⟨fuel - 1, by omega⟩
    have fewer : xs.length < fuel := by
      rw [List.length_cons] at enough
      omega
    have later := ih (fun y hy => loops y (List.mem_cons_of_mem _ hy)) fewer
    have text : followed write (x :: xs) ++ close :: rest =
        ',' :: (write x ++ (followed write xs ++ close :: rest)) := by simp [followed]
    rw [text, (loops x List.mem_cons_self).next _ _ _ (parted_followed xs closes rest), later]
    simp [Except.map, followed]

/-- **A loop reads back what it was written from.** -/
theorem Loops.reads {xs : List α} (loops : ∀ x ∈ xs, Loops loop write close x) {fuel : Nat}
    (enough : xs.length < fuel) (rest : List Char) :
    Reads (loop fuel true) ((followed write xs).drop 1) xs (close :: rest) := by
  intro place
  obtain ⟨fuel, rfl⟩ : ∃ n, fuel = n + 1 := ⟨fuel - 1, by omega⟩
  cases xs with
  | nil => exact stops ..
  | cons x xs =>
    have fewer : xs.length < fuel := by
      rw [List.length_cons] at enough
      omega
    have later := reads_more stops closes (fun y hy => loops y (List.mem_cons_of_mem _ hy)) fewer
      rest
    have text : (followed write (x :: xs)).drop 1 ++ close :: rest =
        write x ++ (followed write xs ++ close :: rest) := by simp [followed]
    rw [text, (loops x List.mem_cons_self).first _ _ _ (parted_followed xs closes rest), later]
    simp [Except.map, followed]

end

/-! ## The two loops -/

/-- The text begins like a value: not with a blank, and not with what would close a list. -/
def Opens (text : List Char) : Prop :=
  ∃ c rest, text = c :: rest ∧ isSpacing c = false ∧ c ≠ ']'

section
variable {α : Type} {item : Reader α} {print : α → List Char}

/-- One round of the loop over items, once the item has been reached. -/
theorem items_of_toItem {x : α} {first : Bool} {c : Cursor} {rest : List Char} {place : Position}
    (goes : toItem first c = .ok (true, ⟨print x ++ rest, place⟩))
    (isItem : Reads item (print x) x rest) (fuel : Nat) :
    items item (fuel + 1) first c =
      (items item fuel false ⟨rest, (print x).foldl Position.step place⟩).map
        fun (xs, next) => (x :: xs, next) := by
  simp only [items, goes, bind, Except.bind, if_true, isItem place]
  cases items item fuel false ⟨rest, (print x).foldl Position.step place⟩ <;> rfl

/-- A list is read back if its items are. -/
theorem loops_items {x : α} (opens : Opens (print x))
    (reads : ∀ rest, Parted rest → Reads item (print x) x rest) :
    Loops (items item) print ']' x where
  first fuel rest place parted := by
    refine items_of_toItem ?_ (reads rest parted) fuel
    obtain ⟨c, more, text, notBlank, notClosing⟩ := opens
    simp [toItem, text, atToken_cons notBlank]
  next fuel rest place parted := by
    refine items_of_toItem ?_ (reads rest parted) fuel
    obtain ⟨c, more, text, notBlank, notClosing⟩ := opens
    simp [toItem, text, atToken_cons (c := ',') (by decide), atToken_cons notBlank, notClosing]

/-- A name, a colon, and what stands under the name. -/
def entry (print : α → List Char) (m : String × α) : List Char :=
  printString m.1 ++ ':' :: print m.2

theorem toName_first (m : String × α) (rest : List Char) (place : Position) :
    toName true ⟨entry print m ++ rest, place⟩ = .ok (true, ⟨entry print m ++ rest, place⟩) := by
  simp [toName, entry, printString, atToken_cons (c := '"') (by decide)]

theorem toName_next (m : String × α) (rest : List Char) (place : Position) :
    toName false ⟨',' :: (entry print m ++ rest), place⟩ =
      .ok (true, ⟨entry print m ++ rest, place.step ','⟩) := by
  simp [toName, entry, printString, atToken_cons (c := '"') (by decide),
    atToken_cons (c := ',') (by decide)]

/-- The name of a member is read back. -/
theorem string_entry (m : String × α) (rest : List Char) (place : Position) :
    string (Cursor.tail ⟨entry print m ++ rest, place⟩) =
      .ok (m.1, ⟨':' :: (print m.2 ++ rest), (printString m.1).foldl Position.step place⟩) := by
  have isName := reads_printString m.1 (':' :: (print m.2 ++ rest)) (place.step '"')
  have behindQuote : Cursor.tail ⟨entry print m ++ rest, place⟩ =
      ⟨m.1.toList.flatMap printChar ++ ['"'] ++ ':' :: (print m.2 ++ rest), place.step '"'⟩ := by
    simp [entry, printString, Cursor.tail]
  rw [behindQuote, isName]
  simp [printString]

theorem colon_cons (rest : List Char) (place : Position) :
    colon ⟨':' :: rest, place⟩ = .ok ⟨rest, place.step ':'⟩ := rfl

theorem foldl_entry (print : α → List Char) (m : String × α) (place : Position) :
    (print m.2).foldl Position.step (((printString m.1).foldl Position.step place).step ':') =
      (entry print m).foldl Position.step place := by
  simp [entry]

/-- One round of the loop over members, once the name has been reached. -/
theorem members_of_toName {m : String × α} {first : Bool} {c : Cursor} {rest : List Char}
    {place : Position} (goes : toName first c = .ok (true, ⟨entry print m ++ rest, place⟩))
    (isItem : Reads item (print m.2) m.2 rest) (fuel : Nat) :
    members item (fuel + 1) first c =
      (members item fuel false ⟨rest, (entry print m).foldl Position.step place⟩).map
        fun (ms, next) => (m :: ms, next) := by
  simp only [members, goes, bind, Except.bind, if_true, string_entry, colon_cons, isItem _,
    foldl_entry]
  cases members item fuel false ⟨rest, (entry print m).foldl Position.step place⟩ <;> rfl

/-- An object is read back if its values are. -/
theorem loops_members {m : String × α}
    (reads : ∀ rest, Parted rest → Reads item (print m.2) m.2 rest) :
    Loops (members item) (entry print) '\x7d' m where
  first fuel rest place parted :=
    members_of_toName (toName_first m rest place) (reads rest parted) fuel
  next fuel rest place parted :=
    members_of_toName (toName_next m rest place) (reads rest parted) fuel

end

/-! ## Values -/

/-- Items are printed one after the other, with commas between. -/
theorem printItems_eq (xs : List Value) : printItems xs = (followed Value.print xs).drop 1 := by
  induction xs with
  | nil => rfl
  | cons x xs ih =>
    cases xs with
    | nil => simp [printItems, followed]
    | cons y ys => simp [printItems, ih, followed]

theorem printMembers_eq (ms : List (String × Value)) :
    printMembers ms = (followed (entry Value.print) ms).drop 1 := by
  induction ms with
  | nil => rfl
  | cons m ms ih =>
    obtain ⟨name, x⟩ := m
    cases ms with
    | nil => simp [printMembers, followed, entry]
    | cons y ys => simp [printMembers, ih, followed, entry]

/-- Each part is printed with a comma at least, so the text is enough as fuel. -/
theorem length_le_followed {α : Type} (write : α → List Char) (xs : List α) :
    xs.length ≤ (followed write xs).length := by
  induction xs with
  | nil => simp
  | cons x xs ih =>
    simp only [followed, List.flatMap_cons, List.length_append, List.length_cons] at ih ⊢
    omega

/-- Brackets hold fewer things than they have characters. -/
theorem length_lt_bracketed {α : Type} (write : α → List Char) (xs : List α) (opening close : Char)
    (rest : List Char) :
    xs.length < (opening :: ((followed write xs).drop 1 ++ close :: rest)).length := by
  have := length_le_followed write xs
  simp only [List.length_cons, List.length_append, List.length_drop]
  omega

/-- A sign or a digit begins nothing but a number. -/
theorem ne_of_begins {c d : Char} (begins : c = '-' ∨ c.isDigit = true)
    (other : d ≠ '-' ∧ d.isDigit = false) : c ≠ d := by
  intro same
  subst same
  rcases begins with sign | digit
  · exact other.1 sign
  · rw [other.2] at digit
    cases digit

theorem isSpacing_of_begins {c : Char} (begins : c = '-' ∨ c.isDigit = true) :
    isSpacing c = false := by
  have ne := fun d => ne_of_begins (d := d) begins
  simp [isSpacing, ne ' ' (by decide), ne '\n' (by decide), ne '\t' (by decide),
    ne '\r' (by decide)]

/-- What begins like a number is read as one. -/
theorem valueWith_of_begins (inner : Option (Reader Value)) {c : Char}
    (begins : c = '-' ∨ c.isDigit = true) (rest : List Char) (place : Position) :
    valueWith inner ⟨c :: rest, place⟩ =
      (number ⟨c :: rest, place⟩).map fun (n, next) => (.number n, next) := by
  have ne := fun d => ne_of_begins (d := d) begins
  unfold valueWith
  simp only [atToken_cons (isSpacing_of_begins begins)]
  split
  next empty => cases empty
  next h => cases h; exact absurd rfl (ne 'n' (by decide))
  next h => cases h; exact absurd rfl (ne 't' (by decide))
  next h => cases h; exact absurd rfl (ne 'f' (by decide))
  next h => cases h; exact absurd rfl (ne '"' (by decide))
  next h => cases h; exact absurd rfl (ne '[' (by decide))
  next h => cases h; exact absurd rfl (ne '\x7b' (by decide))
  next x _ _ _ _ _ _ _ h =>
    cases h
    have isNumber : (c = '-' || c.isDigit) = true := by simpa using begins
    rw [if_pos isNumber]
    cases number ⟨c :: rest, place⟩ <;> rfl

/-- A value without doubles begins like a value. -/
theorem opens_print {v : Value} (whole : v.isWhole = true) : Opens v.print := by
  cases v with
  | null => exact ⟨'n', _, rfl, by decide, by decide⟩
  | bool b => cases b <;> exact ⟨_, _, rfl, by decide, by decide⟩
  | string s => exact ⟨'"', _, rfl, by decide, by decide⟩
  | array xs => exact ⟨'[', _, rfl, by decide, by decide⟩
  | object ms => exact ⟨'\x7b', _, rfl, by decide, by decide⟩
  | number n =>
    cases n with
    | double x => cases whole
    | integer n =>
      obtain ⟨c, cs, text, begins⟩ := exists_printInt n.val
      exact ⟨c, cs, text, isSpacing_of_begins begins, ne_of_begins begins (by decide)⟩

/-- No item of a list without doubles is a double. -/
theorem isWhole_array {xs : List Value} (whole : (Value.array xs).isWhole = true) :
    ∀ x ∈ xs, x.isWhole = true := by
  rw [Value.isWhole, itemsWhole_iff] at whole
  exact whole

theorem isWhole_object {ms : List (String × Value)} (whole : (Value.object ms).isWhole = true) :
    ∀ m ∈ ms, m.2.isWhole = true := by
  rw [Value.isWhole, membersWhole_iff] at whole
  exact whole

/-- Values that are not in brackets are read whatever reads the parts of others. -/
theorem reads_flat {v : Value} (flat : v.Shaped 0) (whole : v.isWhole = true)
    (inner : Option (Reader Value)) {rest : List Char} (parted : Parted rest) :
    Reads (valueWith inner) v.print v rest := by
  intro place
  cases v with
  | array | object => cases flat
  | null => rfl
  | bool b => cases b <;> rfl
  | string s =>
    have isString := reads_printString s rest (place.step '"')
    have text : (Value.string s).print ++ rest =
        '"' :: (s.toList.flatMap printChar ++ ['"'] ++ rest) := by simp [Value.print, printString]
    rw [text]
    show (string ⟨s.toList.flatMap printChar ++ ['"'] ++ rest, place.step '"'⟩ >>= _) = _
    rw [isString]
    rfl
  | number n =>
    cases n with
    | double x => cases whole
    | integer n =>
      have isNumber := reads_printInt n parted place
      obtain ⟨c, cs, text, begins⟩ := exists_printInt n.val
      -- The reader chooses by the first character, so the text has to show it.
      show valueWith inner ⟨printInt n.val ++ rest, place⟩ =
        .ok (_, ⟨rest, (printInt n.val).foldl _ place⟩)
      rw [text, List.cons_append] at isNumber ⊢
      rw [valueWith_of_begins inner begins, isNumber]
      rfl

/-- An array is read from its parts. -/
theorem reads_array {item : Reader Value} {xs : List Value}
    (loops : ∀ x ∈ xs, Loops (items item) Value.print ']' x) (rest : List Char) :
    Reads (valueWith (some item)) (Value.array xs).print (.array xs) rest := by
  intro place
  have text : (Value.array xs).print ++ rest =
      '[' :: ((followed Value.print xs).drop 1 ++ ']' :: rest) := by
    simp [Value.print, printItems_eq]
  have enough := length_lt_bracketed Value.print xs '[' ']' rest
  have isList := Loops.reads (fun _ _ _ _ => rfl) (by decide) loops enough rest (place.step '[')
  have closes : ∀ place, Bracket.list.close ⟨']' :: rest, place⟩ = .ok ⟨rest, place.step ']'⟩ :=
    fun _ => rfl
  rw [text]
  show (items item ('[' :: ((followed Value.print xs).drop 1 ++ ']' :: rest)).length true
    ⟨(followed Value.print xs).drop 1 ++ ']' :: rest, place.step '['⟩ >>= _) = _
  simp only [isList, bind, Except.bind, closes]
  simp [pure, Except.pure, Value.print, printItems_eq]

/-- An object is read from its parts. -/
theorem reads_object {item : Reader Value} {ms : List (String × Value)}
    (ordered : ms.Pairwise fun a b => a.1 < b.1)
    (loops : ∀ m ∈ ms, Loops (members item) (entry Value.print) '\x7d' m) (rest : List Char) :
    Reads (valueWith (some item)) (Value.object ms).print (.object ms) rest := by
  intro place
  have text : (Value.object ms).print ++ rest =
      '\x7b' :: ((followed (entry Value.print) ms).drop 1 ++ '\x7d' :: rest) := by
    simp [Value.print, printMembers_eq]
  have enough := length_lt_bracketed (entry Value.print) ms '\x7b' '\x7d' rest
  have isObject := Loops.reads (fun _ _ _ _ => rfl) (by decide) loops enough rest
    (place.step '\x7b')
  have closes : ∀ place, Bracket.object.close ⟨'\x7d' :: rest, place⟩ =
      .ok ⟨rest, place.step '\x7d'⟩ := fun _ => rfl
  rw [text]
  show (members item ('\x7b' :: ((followed (entry Value.print) ms).drop 1 ++ '\x7d' :: rest)).length
    true ⟨(followed (entry Value.print) ms).drop 1 ++ '\x7d' :: rest, place.step '\x7b'⟩ >>= _) = _
  simp only [isObject, bind, Except.bind, closes, ofMembers_of_pairwise ordered]
  simp [pure, Except.pure, Value.print, printMembers_eq]

/-- **What is written for a value is read as the value.** -/
theorem reads_print {depth : Nat} {v : Value} (shaped : v.Shaped depth)
    (whole : v.isWhole = true) {rest : List Char} (parted : Parted rest) :
    Reads (value depth) v.print v rest := by
  -- The reader goes down by the depth that is left, and the parts of a value nest one less.
  induction depth generalizing v rest with
  | zero => exact reads_flat shaped whole none parted
  | succ depth ih =>
    cases v with
    | null | bool | number | string =>
      exact reads_flat (by trivial) whole (some (value depth)) parted
    | array xs =>
      refine reads_array (fun x hx => ?_) rest
      have wholeItem := isWhole_array whole x hx
      exact loops_items (opens_print wholeItem) fun _ parted => ih (shaped x hx) wholeItem parted
    | object ms =>
      refine reads_object shaped.1 (fun m hm => ?_) rest
      have wholeMember := isWhole_object whole m hm
      exact loops_members fun _ parted => ih (shaped.2 m hm) wholeMember parted

/-! ## Records -/

/-- Once the reader of a record stands at the name of a member that it has not read yet, it
reads the member into its draft and goes on. -/
theorem named_of_toName {σ : Type} {all : List (Member σ)} {m : Member σ} {d : σ}
    (d' : σ) {name : String} {v : Value} {first : Bool} {c : Cursor} {rest : List Char}
    {place : Position}
    (goes : toName first c = .ok (true, ⟨entry Value.print (name, v) ++ rest, place⟩))
    (isMember : all.find? (·.name == name) = some m) (unset : m.isSet d = false)
    (reads : Reads (m.read d) v.print d' rest) (fuel : Nat) :
    named all (fuel + 1) first d c =
      named all fuel false d' ⟨rest, (entry Value.print (name, v)).foldl Position.step place⟩ := by
  have ends := foldl_entry Value.print (name, v) place
  dsimp only at ends
  simp only [named, goes, orHalt, bind, Except.bind, if_true, string_entry, isMember, unset,
    Bool.false_eq_true, if_false, colon_cons, reads _, ends]

end Rendezvous.Json
