import Rendezvous.Proofs.Json.Leaves
import Rendezvous.Proofs.Json.RoundTrip

/-!
# Going over the parts of an array or an object

Four loops go over parts with commas between them: two that keep what they read, one that passes
over everything, and the one of a record. They differ in what they do at a part, but not in how they
come from one part to the next, over blanks and a comma, and where they stop. `Walks` says this
of a loop, `Goes` what comes of one part, and by induction over the parts the whole loop does what
the parts make of its state (`Walks.run`).
-/

namespace Rendezvous.Json

/-! ## Blanks -/

theorem atToken_blank {b : List Char} (blank : Blank b) (rest : List Char) (place : Position) :
    Cursor.atToken ⟨b ++ rest, place⟩ =
      Cursor.atToken ⟨rest, b.foldl Position.step place⟩ := by
  simp only [Cursor.atToken, Cursor.dropWhile, List.dropWhile_append_of_pos blank,
    List.takeWhile_append_of_pos blank, List.foldl_append]

/-- A blank is no part of a number. -/
theorem parted_blank {b rest : List Char} (blank : Blank b) (parted : Parted rest) :
    Parted (b ++ rest) := by
  cases b with
  | nil => exact parted
  | cons c b =>
    apply parted_cons
    have spacing := blank c List.mem_cons_self
    simp only [isSpacing, Bool.or_eq_true, decide_eq_true_eq] at spacing
    obtain ((rfl | rfl) | rfl) | rfl := spacing <;> decide

/-! ## Loops -/

/-- The comma before a part, unless it is the first. -/
def comma (first : Bool) : List Char := if first then [] else [',']

/-- Blanks do not matter to the loop, and at the closing bracket it stops. -/
structure Walks {σ ε τ : Type} (loop : Nat → Bool → σ → Cursor → Except ε τ) (close : Char)
    (stopped : σ → Cursor → Except ε τ) : Prop where
  closes : isNumeral close = false
  blank : ∀ fuel first s b rest place, Blank b → loop (fuel + 1) first s ⟨b ++ rest, place⟩ =
    loop (fuel + 1) first s ⟨rest, b.foldl Position.step place⟩
  stops : ∀ fuel first s rest place,
    loop (fuel + 1) first s ⟨close :: rest, place⟩ = stopped s ⟨close :: rest, place⟩

/-- What comes of the state of a loop at a part with this text: the state behind the part, or a
refusal. -/
def Goes {σ ε τ : Type} (loop : Nat → Bool → σ → Cursor → Except ε τ) (t : List Char) (s : σ) :
    Option σ → Prop
  | some s' => ∀ fuel first rest place, Parted rest →
    loop (fuel + 1) first s ⟨comma first ++ (t ++ rest), place⟩ =
      loop fuel false s' ⟨rest, (comma first ++ t).foldl Position.step place⟩
  | none => ∀ fuel first rest place, Parted rest →
    ∃ e, loop (fuel + 1) first s ⟨comma first ++ (t ++ rest), place⟩ = .error e

/-- What comes of a loop: it stops in a state, or it refuses. -/
def Comes {σ ε τ : Type} (result : Except ε τ) (stopped : σ → Except ε τ) : Option σ → Prop
  | some s => result = stopped s
  | none => ∃ e, result = .error e

theorem parted_commaBefore {α : Type} {chars : α → List Char} {close : Char}
    (closes : isNumeral close = false) (xs : List α) (rest : List Char) :
    Parted (commaBefore chars xs ++ close :: rest) := by
  cases xs with
  | nil => exact parted_cons closes _
  | cons y ys => exact parted_cons (by decide) _

section
variable {σ ε τ α : Type} {loop : Nat → Bool → σ → Cursor → Except ε τ} {close : Char}
  {stopped : σ → Cursor → Except ε τ} {chars core after : α → List Char} {f : σ → α → Option σ}
  (walks : Walks loop close stopped) (parts : ∀ x, chars x = core x ++ after x)

include walks parts

/-- One part, and the blanks behind it. -/
theorem Walks.step {x : α} {s : σ} {outcome : Option σ} (goes : Goes loop (core x) s outcome)
    (clear : Blank (after x)) {rest : List Char} (parted : Parted rest) (fuel : Nat) (first : Bool)
    (place : Position) :
    Comes (loop (fuel + 2) first s ⟨comma first ++ (chars x ++ rest), place⟩)
      (fun s' => loop (fuel + 1) false s' ⟨rest, (comma first ++ chars x).foldl Position.step place⟩)
      outcome := by
  rw [parts, List.append_assoc]
  cases outcome with
  | some s' =>
    refine (goes _ _ _ _ (parted_blank clear parted)).trans ?_
    rw [walks.blank _ _ _ _ _ _ clear]
    simp
  | none => exact goes _ _ _ _ (parted_blank clear parted)

/-- One part, and then the others. -/
theorem Walks.step_more {x : α} {xs : List α} {s : σ} (goes : Goes loop (core x) s (f s x))
    (clear : Blank (after x)) {rest : List Char} {fuel : Nat}
    (later : ∀ s place, Comes (loop (fuel + 1) false s ⟨commaBefore chars xs ++ close :: rest, place⟩)
      (fun s' => stopped s' ⟨close :: rest, (commaBefore chars xs).foldl Position.step place⟩)
      (xs.foldlM f s)) (first : Bool) (place : Position) :
    Comes (loop (fuel + 2) first s
        ⟨comma first ++ (chars x ++ (commaBefore chars xs ++ close :: rest)), place⟩)
      (fun s' => stopped s' ⟨close :: rest,
        (comma first ++ chars x ++ commaBefore chars xs).foldl Position.step place⟩)
      ((x :: xs).foldlM f s) := by
  have parted : Parted (commaBefore chars xs ++ close :: rest) :=
    parted_commaBefore walks.closes xs rest
  have step := walks.step parts goes clear parted fuel first place
  rw [List.foldlM_cons]
  -- The loop stops at this part, or goes on behind it with what the part has made of the state.
  cases outcome : f s x with
  | none =>
    rw [outcome] at step
    exact step
  | some s' =>
    rw [outcome] at step
    have stepped : loop (fuel + 2) first s _ = loop (fuel + 1) false s' _ := step
    have ends : (comma first ++ chars x ++ commaBefore chars xs).foldl Position.step place =
        (commaBefore chars xs).foldl Position.step
          ((comma first ++ chars x).foldl Position.step place) := List.foldl_append
    rw [stepped, ends]
    exact later s' _

/-- Behind the first part the loop goes through the others in turn, or comes to a stop at one of
them. -/
theorem Walks.run_more {xs : List α} (goes : ∀ x ∈ xs, ∀ s, Goes loop (core x) s (f s x))
    (clear : ∀ x ∈ xs, Blank (after x)) (rest : List Char) {fuel : Nat}
    (enough : xs.length < fuel) (s : σ) (place : Position) :
    Comes (loop fuel false s ⟨commaBefore chars xs ++ close :: rest, place⟩)
      (fun s' => stopped s' ⟨close :: rest, (commaBefore chars xs).foldl Position.step place⟩)
      (xs.foldlM f s) := by
  induction xs generalizing fuel s place with
  | nil =>
    obtain ⟨fuel, rfl⟩ := Nat.exists_eq_add_of_lt enough
    exact walks.stops _ _ _ _ _
  | cons x xs ih =>
    rw [List.length_cons] at enough
    obtain ⟨fuel, rfl⟩ : ∃ n, fuel = n + 2 := ⟨fuel - 2, by omega⟩
    obtain ⟨goesFirst, goesRest⟩ := List.forall_mem_cons.mp goes
    obtain ⟨clearFirst, clearRest⟩ := List.forall_mem_cons.mp clear
    have step := walks.step_more parts (goesFirst s) clearFirst
      (ih goesRest clearRest (by omega : xs.length < fuel + 1)) false place
    simpa [commaBefore, comma] using step

/-- **A loop does what the parts make of its state.** -/
theorem Walks.run {xs : List α} {t : List Char} (inside : Inside chars xs t)
    (goes : ∀ x ∈ xs, ∀ s, Goes loop (core x) s (f s x)) (clear : ∀ x ∈ xs, Blank (after x))
    (rest : List Char) {fuel : Nat} (enough : xs.length < fuel) (s : σ) (place : Position) :
    Comes (loop fuel true s ⟨t ++ close :: rest, place⟩)
      (fun s' => stopped s' ⟨close :: rest, t.foldl Position.step place⟩) (xs.foldlM f s) := by
  cases inside with
  | nothing blank =>
    obtain ⟨fuel, rfl⟩ := Nat.exists_eq_add_of_lt enough
    exact (walks.blank _ _ _ _ _ _ blank).trans (walks.stops _ _ _ _ _)
  | parts x xs =>
    rw [List.length_cons] at enough
    obtain ⟨fuel, rfl⟩ : ∃ n, fuel = n + 2 := ⟨fuel - 2, by omega⟩
    obtain ⟨goesFirst, goesRest⟩ := List.forall_mem_cons.mp goes
    obtain ⟨clearFirst, clearRest⟩ := List.forall_mem_cons.mp clear
    have step := walks.step_more parts (goesFirst s) clearFirst
      (walks.run_more parts goesRest clearRest rest (by omega : xs.length < fuel + 1)) true place
    simpa [comma] using step

end

/-! ## Parts -/

/-- What a reader has to take of an item: all but the blanks behind it. -/
def Padded.core (p : Padded) : List Char := p.before ++ p.text

/-- An item is what a reader takes of it and the blanks behind. -/
theorem Padded.chars_eq (p : Padded) : p.chars = p.core ++ p.after := by
  simp [chars, core]

/-- What a reader has to take of a member: all but the blanks behind it. -/
def Entry.core (e : Entry) : List Char :=
  e.name.before ++ '"' :: (e.name.text ++ '"' :: (e.name.after ++ ':' :: e.value.core))

theorem Entry.chars_eq (e : Entry) : e.chars = e.core ++ e.value.after := by
  simp [chars, core, Padded.chars_eq]

/-- What stands behind the quote that opens the name of a member. -/
def Entry.behindQuote (e : Entry) (rest : List Char) : List Char :=
  e.name.text ++ '"' :: (e.name.after ++ ':' :: (e.value.core ++ rest))

/-- A member begins with a quote, behind blanks. -/
theorem Entry.core_append (e : Entry) (rest : List Char) :
    e.core ++ rest = e.name.before ++ '"' :: e.behindQuote rest := by
  simp [core, behindQuote]

theorem colon_blank {b : List Char} (blank : Blank b) (rest : List Char) (place : Position) :
    colon ⟨b ++ ':' :: rest, place⟩ =
      .ok ⟨rest, (b ++ [':']).foldl Position.step place⟩ := by
  simp only [colon, atToken_blank blank, atToken_cons (c := ':') (by decide)]
  simp [Cursor.tail]

/-- The parts between two brackets are no more, and none of them is longer, than what stands
there. -/
theorem Inside.fits {α : Type} {chars : α → List Char} {xs : List α} {t : List Char}
    (inside : Inside chars xs t) (some_ : ∀ x ∈ xs, 0 < (chars x).length) :
    xs.length ≤ t.length ∧ ∀ x ∈ xs, (chars x).length ≤ t.length := by
  -- Behind the first part each of them has a comma, so even empty ones would count.
  have more (ys : List α) : ys.length ≤ (commaBefore chars ys).length ∧
      ∀ y ∈ ys, (chars y).length ≤ (commaBefore chars ys).length := by
    induction ys with
    | nil => simp
    | cons y ys ih =>
      simp only [commaBefore, List.flatMap_cons, List.length_append, List.length_cons,
        List.forall_mem_cons] at ih ⊢
      refine ⟨by omega, by omega, fun z member => ?_⟩
      have := ih.2 z member
      omega
  cases inside with
  | nothing => simp
  | parts x xs =>
    obtain ⟨count, lengths⟩ := more xs
    have one := some_ x List.mem_cons_self
    simp only [List.length_append, List.length_cons, List.forall_mem_cons]
    refine ⟨by omega, by omega, fun z member => ?_⟩
    have := lengths z member
    omega

/-- What the first character of a value tells: that it is none of what stands before a value or
between two, and of a string, an object or a null that it is one. -/
structure Opening (t : List Char) (c : Char) : Prop where
  notBlank : isSpacing c = false
  notClosing : c ≠ ']'
  notComma : c ≠ ','
  string : c = '"' → ∃ body, Body body ∧ t = '"' :: (body ++ ['"'])
  object : c = '\x7b' → ∃ entries inside d, Inside Entry.chars entries inside ∧
    (∀ e ∈ entries, e.Named) ∧ (∀ e ∈ entries, Text d e.value.text) ∧
      t = '\x7b' :: (inside ++ ['\x7d'])
  null : c = 'n' → t = "null".toList

/-- Every value begins with a character that tells of what sort it is. -/
theorem Text.begins {d : Nat} {t : List Char} (text : Text d t) :
    ∃ c rest, t = c :: rest ∧ Opening t c := by
  cases text with
  | word isWord =>
    simp only [words, List.mem_cons, List.not_mem_nil, or_false] at isWord
    obtain rfl | rfl | rfl := isWord
    · exact ⟨'n', _, rfl, by decide, by decide, by decide, by simp, by simp, fun _ => rfl⟩
    · exact ⟨'t', _, rfl, by decide, by decide, by decide, by simp, by simp, by simp⟩
    · exact ⟨'f', _, rfl, by decide, by decide, by decide, by simp, by simp, by simp⟩
  | numeral numeral =>
    obtain ⟨c, rest, rfl, begins⟩ := numeral.begins
    have ne := fun d => ne_of_begins (d := d) begins
    exact ⟨c, rest, rfl, isSpacing_of_begins begins, ne _ (by decide), ne _ (by decide),
      fun h => absurd h (ne _ (by decide)), fun h => absurd h (ne _ (by decide)),
      fun h => absurd h (ne _ (by decide))⟩
  | string body =>
    exact ⟨'"', _, rfl, by decide, by decide, by decide, fun _ => ⟨_, body, rfl⟩, by simp, by simp⟩
  | array isInside _ _ =>
    exact ⟨'[', _, rfl, by decide, by decide, by decide, by simp, by simp, by simp⟩
  | object isInside named texts =>
    exact ⟨'\x7b', _, rfl, by decide, by decide, by decide, by simp,
      fun _ => ⟨_, _, _, isInside, named, texts, rfl⟩, by simp⟩

theorem Text.length_pos {d : Nat} {p : Padded} (text : Text d p.text) : 0 < p.chars.length := by
  obtain ⟨c, t, begins, -⟩ := text.begins
  simp only [Padded.chars, List.length_append, begins, List.length_cons]
  omega

theorem Entry.length_pos (e : Entry) : 0 < e.chars.length := by
  simp only [Entry.chars, List.length_append, List.length_cons]
  omega

end Rendezvous.Json
