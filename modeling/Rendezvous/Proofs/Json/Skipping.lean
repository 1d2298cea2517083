import Rendezvous.Proofs.Json.Walking

/-!
# Passing over values

Every value of the grammar is passed over, to its end and no further, however deep it nests and
whatever its strings spell (`skip_of_text`).
-/

namespace Rendezvous.Json

theorem skipNested_blank {b : List Char} (blank : Blank b) (fuel : Nat) (rest : List Char)
    (place : Position) : skipNested (fuel + 1) ⟨b ++ rest, place⟩ =
      skipNested (fuel + 1) ⟨rest, b.foldl Position.step place⟩ := by
  simp only [skipNested, atToken_blank blank]

/-- What begins like a number is passed over as one. -/
theorem skipNested_of_begins {c : Char} (begins : c = '-' ∨ c.isDigit = true) (fuel : Nat)
    (rest : List Char) (place : Position) :
    skipNested (fuel + 1) ⟨c :: rest, place⟩ = skipNumber ⟨c :: rest, place⟩ := by
  have ne := fun d => ne_of_begins (d := d) begins
  have isNumber : (c = '-' || c.isDigit) = true := by simpa using begins
  unfold skipNested
  simp only [atToken_cons (isSpacing_of_begins begins)]
  split
  next empty => cases empty
  next h => cases h; exact absurd rfl (ne 'n' (by decide))
  next h => cases h; exact absurd rfl (ne 't' (by decide))
  next h => cases h; exact absurd rfl (ne 'f' (by decide))
  next h => cases h; exact absurd rfl (ne '"' (by decide))
  next h => cases h; exact absurd rfl (ne '[' (by decide))
  next h => cases h; exact absurd rfl (ne '\x7b' (by decide))
  next h =>
    cases h
    exact if_pos isNumber

/-! ## The two loops -/

/-- The loop over parts that are passed over has nothing to remember. -/
def skipLoop (next : Bool → Cursor → Except Flaw (Bool × Cursor)) (atEnd : Cause)
    (part : Cursor → Except Flaw Cursor) (fuel : Nat) (first : Bool) (_ : Unit) (c : Cursor) :
    Except Flaw Cursor :=
  skipParts next atEnd part fuel first c

/-- Such a loop walks over blanks and goes past its bracket. -/
theorem walks_skipLoop {next : Bool → Cursor → Except Flaw (Bool × Cursor)} {close : Char}
    (closes : isNumeral close = false)
    (blank : ∀ first b rest place, Blank b →
      next first ⟨b ++ rest, place⟩ = next first ⟨rest, b.foldl Position.step place⟩)
    (stops : ∀ first rest place,
      next first ⟨close :: rest, place⟩ = .ok (false, ⟨rest, place.step close⟩))
    (atEnd : Cause) (part : Cursor → Except Flaw Cursor) :
    Walks (skipLoop next atEnd part) close fun _ c => .ok c.tail where
  closes := closes
  blank fuel first s b rest place clear := by
    simp only [skipLoop, skipParts, blank first b rest place clear]
  stops fuel first s rest place := by
    simp only [skipLoop, skipParts, stops]
    rfl

theorem toSkippedItem_blank (first : Bool) (b rest : List Char) (place : Position)
    (blank : Blank b) : toSkippedItem first ⟨b ++ rest, place⟩ =
      toSkippedItem first ⟨rest, b.foldl Position.step place⟩ := by
  simp only [toSkippedItem, atToken_blank blank]

theorem toSkippedMember_blank (first : Bool) (b rest : List Char) (place : Position)
    (blank : Blank b) : toSkippedMember first ⟨b ++ rest, place⟩ =
      toSkippedMember first ⟨rest, b.foldl Position.step place⟩ := by
  simp only [toSkippedMember, atToken_blank blank]

theorem walks_skippedItems (part : Cursor → Except Flaw Cursor) :
    Walks (skipLoop toSkippedItem .endInList part) ']' fun _ c => .ok c.tail :=
  walks_skipLoop (by decide) toSkippedItem_blank (fun _ _ _ => rfl) _ _

theorem walks_skippedMembers (part : Cursor → Except Flaw Cursor) :
    Walks (skipLoop toSkippedMember .endInObject part) '\x7d' fun _ c => .ok c.tail :=
  walks_skipLoop (by decide) toSkippedMember_blank (fun _ _ _ => rfl) _ _

/-- The part takes this text and no more. -/
def Takes (part : Cursor → Except Flaw Cursor) (t : List Char) : Prop :=
  ∀ rest, Parted rest → ∀ place,
    part ⟨t ++ rest, place⟩ = .ok ⟨rest, t.foldl Position.step place⟩

theorem Takes.blank {b t : List Char} {fuel : Nat} (takes : Takes (skipNested (fuel + 1)) t)
    (blank : Blank b) : Takes (skipNested (fuel + 1)) (b ++ t) := by
  intro rest parted place
  rw [List.append_assoc, skipNested_blank blank, takes rest parted, List.foldl_append]

/-- The loop passes over a part if it goes to where the part is passed over. -/
theorem goes_skipLoop {next : Bool → Cursor → Except Flaw (Bool × Cursor)}
    {part : Cursor → Except Flaw Cursor} {t : List Char} (atEnd : Cause)
    (reaches : ∀ first rest, Parted rest → ∀ place, ∃ c,
      next first ⟨comma first ++ (t ++ rest), place⟩ = .ok (true, c) ∧
        part c = .ok ⟨rest, (comma first ++ t).foldl Position.step place⟩) :
    Goes (skipLoop next atEnd part) t () (some ()) := by
  intro fuel first rest place parted
  obtain ⟨c, goes, passes⟩ := reaches first rest parted place
  simp only [skipLoop, skipParts, goes, passes, bind, Except.bind, if_true]

/-- One item is passed over. -/
theorem goes_skippedItem {p : Padded} {d fuel : Nat} (clear : p.Clear) (text : Text d p.text)
    (takes : Takes (skipNested (fuel + 1)) p.text) :
    Goes (skipLoop toSkippedItem .endInList (skipNested (fuel + 1))) p.core () (some ()) := by
  refine goes_skipLoop _ fun first rest parted place => ?_
  cases first with
  | true =>
    -- Before the first item blanks are passed over right away.
    obtain ⟨c, t, begins, opening⟩ := text.begins
    refine ⟨⟨p.text ++ rest, p.before.foldl Position.step place⟩, ?_, ?_⟩
    · rw [Padded.core, comma, if_pos rfl, List.nil_append, List.append_assoc,
        toSkippedItem_blank _ _ _ _ clear.before, begins]
      simp [toSkippedItem, atToken_cons opening.notBlank, opening.notClosing, opening.notComma]
    · rw [takes rest parted]
      simp [comma, Padded.core]
  | false =>
    refine ⟨⟨p.core ++ rest, place.step ','⟩, ?_, ?_⟩
    · simp [comma, toSkippedItem, atToken_cons (c := ',') (by decide), Cursor.tail]
    · rw [Padded.core, takes.blank clear.before rest parted]
      simp [comma]

/-- So is one member, name and value. -/
theorem goes_skippedMember {e : Entry} {fuel : Nat} (named : e.Named)
    (takes : Takes (skipNested (fuel + 1)) e.value.text) :
    Goes (skipLoop toSkippedMember .endInObject (skipNested (fuel + 1))) e.core () (some ()) := by
  refine goes_skipLoop _ fun first rest parted place => ?_
  let start := (comma first ++ e.name.before).foldl Position.step place
  refine ⟨⟨e.value.core ++ rest, (e.name.after ++ [':']).foldl Position.step
    ((e.name.text ++ ['"']).foldl Position.step (start.step '"'))⟩, ?_, ?_⟩
  · rw [e.core_append]
    have skipped := skipString_of_body named.body (e.name.after ++ ':' :: (e.value.core ++ rest))
      (start.step '"')
    -- With a comma in front or without one, the member is at its quote next.
    have quote : toSkippedMember first
        ⟨comma first ++ (e.name.before ++ '"' :: e.behindQuote rest), place⟩ =
      (skipString ⟨e.behindQuote rest, start.step '"'⟩ >>= fun c => colon c >>= fun c =>
        .ok (true, c)) := by
      cases first with
      | true =>
        rw [comma, if_pos rfl, List.nil_append,
          toSkippedMember_blank _ _ _ _ named.clearName.before]
        simp only [toSkippedMember, atToken_cons (c := '"') (by decide), start, comma, if_true,
          List.nil_append]
        rfl
      | false =>
        simp only [comma, Bool.false_eq_true, if_false, List.cons_append, List.nil_append,
          toSkippedMember, atToken_cons (c := ',') (by decide), Cursor.tail,
          atToken_blank named.clearName.before, atToken_cons (c := '"') (by decide), start]
        rfl
    rw [quote, Entry.behindQuote, skipped]
    simp only [bind, Except.bind, colon_blank named.clearName.after]
  · rw [Padded.core, takes.blank named.clear.before rest parted]
    simp [Entry.core, Padded.core, start]

/-! ## Values -/

/-- What begins with a certain character is passed over from behind it. -/
theorem Takes.cons {part part' : Cursor → Except Flaw Cursor} {t : List Char}
    (takes : Takes part t) {x : Char}
    (enters : ∀ rest place, part' ⟨x :: rest, place⟩ = part ⟨rest, place.step x⟩) :
    Takes part' (x :: t) := by
  intro rest parted place
  rw [List.cons_append, enters, takes rest parted, List.foldl_cons]

theorem takes_string {t : List Char} (body : Body t) : Takes skipString (t ++ ['"']) := by
  intro rest _ place
  rw [List.append_assoc, List.singleton_append, skipString_of_body body]

/-- Nothing stops a loop that passes over each of the parts. -/
theorem takes_inside {α : Type} {chars core after : α → List Char} {close : Char}
    {next : Bool → Cursor → Except Flaw (Bool × Cursor)} {atEnd : Cause}
    {part : Cursor → Except Flaw Cursor} {xs : List α} {inside : List Char} {fuel : Nat}
    (walks : Walks (skipLoop next atEnd part) close fun _ c => .ok c.tail)
    (parts : ∀ x, chars x = core x ++ after x) (isInside : Inside chars xs inside)
    (goes : ∀ x ∈ xs, Goes (skipLoop next atEnd part) (core x) () (some ()))
    (clear : ∀ x ∈ xs, Blank (after x)) (enough : xs.length < fuel) :
    Takes (skipParts next atEnd part fuel true) (inside ++ [close]) := by
  intro rest _ place
  have all : xs.foldlM (fun _ _ => some ()) () = some () := by
    clear goes clear isInside enough
    induction xs with
    | nil => rfl
    | cons x xs ih => exact ih
  have run := walks.run parts isInside (fun x member _ => goes x member) clear rest enough () place
  rw [all] at run
  rw [List.append_assoc, List.singleton_append]
  refine (show skipLoop next atEnd part fuel true () _ = _ from run).trans ?_
  simp [Cursor.tail]

/-- A value is passed over in any number of steps that is no smaller than its text is long. -/
theorem skipNested_of_text {d : Nat} {t : List Char} (text : Text d t) {fuel : Nat}
    (enough : t.length ≤ fuel) : Takes (skipNested fuel) t := by
  -- The text pays for the fuel: what is inside a bracket is shorter by the bracket.
  induction text generalizing fuel with
  | word isWord =>
    simp only [words, List.mem_cons, List.not_mem_nil, or_false] at isWord
    intro rest parted place
    obtain rfl | rfl | rfl := isWord <;>
      (obtain ⟨fuel, rfl⟩ := Nat.exists_eq_add_of_le' enough; rfl)
  | numeral numeral =>
    obtain ⟨c, t, rfl, begins⟩ := numeral.begins
    obtain ⟨fuel, rfl⟩ := Nat.exists_eq_add_of_le' (Nat.le_trans (Nat.le_add_left 1 _) enough)
    intro rest parted place
    have passed := skipNumber_of_numeral numeral parted place
    rw [List.cons_append] at passed ⊢
    rw [skipNested_of_begins begins, passed]
  | string body =>
    obtain ⟨fuel, rfl⟩ := Nat.exists_eq_add_of_le' (Nat.le_trans (Nat.le_add_left 1 _) enough)
    exact (takes_string body).cons fun _ _ => rfl
  | @array d parts inside isInside clear texts ih =>
    obtain ⟨count, lengths⟩ := isInside.fits fun p member => (texts p member).length_pos
    simp only [List.length_cons, List.length_append, List.length_nil] at enough
    obtain ⟨fuel, rfl⟩ : ∃ n, fuel = n + 2 := ⟨fuel - 2, by omega⟩
    have goes : ∀ p ∈ parts, Goes (skipLoop toSkippedItem .endInList (skipNested (fuel + 1)))
        p.core () (some ()) := by
      intro p member
      refine goes_skippedItem (clear p member) (texts p member) (ih p member ?_)
      have := lengths p member
      simp only [Padded.chars, List.length_append] at this
      omega
    have takes := takes_inside (walks_skippedItems _) Padded.chars_eq isInside goes
      (fun p member => (clear p member).after) (by omega : parts.length < fuel + 1)
    exact takes.cons fun _ _ => rfl
  | @object d entries inside isInside named texts ih =>
    obtain ⟨count, lengths⟩ := isInside.fits fun e _ => e.length_pos
    simp only [List.length_cons, List.length_append, List.length_nil] at enough
    obtain ⟨fuel, rfl⟩ : ∃ n, fuel = n + 2 := ⟨fuel - 2, by omega⟩
    have goes : ∀ e ∈ entries, Goes (skipLoop toSkippedMember .endInObject (skipNested (fuel + 1)))
        e.core () (some ()) := by
      intro e member
      refine goes_skippedMember (named e member) (ih e member ?_)
      have := lengths e member
      simp only [Entry.chars, Padded.chars, List.length_append, List.length_cons] at this
      omega
    have takes := takes_inside (walks_skippedMembers _) Entry.chars_eq isInside goes
      (fun e member => (named e member).clear.after) (by omega : entries.length < fuel + 1)
    exact takes.cons fun _ _ => rfl

/-- **A value is passed over, whatever it is.** -/
theorem skip_of_text {d : Nat} {t : List Char} (text : Text d t) {b : List Char} (blank : Blank b) :
    Takes skip (b ++ t) := by
  intro rest parted place
  have takes := (skipNested_of_text text
    (by simp; omega : t.length ≤ (b ++ t ++ rest).length + 1)).blank blank
  exact takes rest parted place

end Rendezvous.Json
