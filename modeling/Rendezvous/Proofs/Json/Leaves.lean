import Rendezvous.Proofs.Json.Grammar
import Rendezvous.Proofs.Json.Reading
import Rendezvous.Proofs.Json.Shape

/-!
# Reading strings and numbers

In front of a text of the grammar, what a reader does is settled by the text: either it takes the
text, whole, and gives the same thing wherever the text stands, or it refuses it everywhere
(`Settles`). Strings are taken for what they spell, and refused if they spell nothing
(`yields_string`). Which numbers are out of range is for the arithmetic of doubles to say, but
where a number ends is not (`settles_number`).

What is passed over is not looked at so closely, and no text of the grammar is refused.
-/

namespace Rendezvous.Json

/-! ## Outcomes -/

/-- What comes of a text in front of which a reader stands: a thing, for which the reader takes
this text, or a refusal. -/
def Yields {α : Type} (read : Reader α) (t : List Char) : Option α → Prop
  | some x => ∀ rest, Parted rest → Reads read t x rest
  | none => ∀ rest, Parted rest → ∀ place, ∃ flaw, read ⟨t ++ rest, place⟩ = .error flaw

/-- What comes of the text is the same wherever it stands. -/
def Settles {α : Type} (read : Reader α) (t : List Char) : Prop := ∃ outcome, Yields read t outcome

/-! ## Strings -/

theorem fourHex_of_code {digits : List Char} {n : Nat} (code : Code digits n) (rest : List Char)
    (place : Position) : fourHex ⟨digits ++ rest, place⟩ =
      .ok (n, ⟨rest, digits.foldl Position.step place⟩) := by
  obtain ⟨first, second, third, fourth⟩ := code
  simp only [fourHex, List.cons_append, List.nil_append, first, second, third, fourth]

/-- An escape that is no surrogate is read as its character. -/
theorem unicodeEscape_code {digits : List Char} {n : Nat} (code : Code digits n)
    (notHigh : isHighSurrogate n = false) (notLow : isLowSurrogate n = false) (rest : List Char)
    (place : Position) : unicodeEscape ⟨digits ++ rest, place⟩ =
      .ok (Char.ofNat n, ⟨rest, digits.foldl Position.step place⟩) := by
  simp only [unicodeEscape, fourHex_of_code code, bind, Except.bind, notHigh, notLow]
  rfl

/-- A high and a low surrogate are read as one character. -/
theorem unicodeEscape_pair {high low : List Char} {m n : Nat} (first : Code high m)
    (isHigh : isHighSurrogate m) (second : Code low n) (isLow : isLowSurrogate n)
    (rest : List Char) (place : Position) :
    unicodeEscape ⟨high ++ '\\' :: 'u' :: low ++ rest, place⟩ =
      .ok (Char.ofNat (0x10000 + (m - 0xD800) * 0x400 + (n - 0xDC00)),
        ⟨rest, (high ++ '\\' :: 'u' :: low).foldl Position.step place⟩) := by
  have notLow : isLowSurrogate m = false := by
    simp only [isHighSurrogate, isLowSurrogate, Bool.and_eq_true, decide_eq_true_eq,
      Bool.and_eq_false_iff, decide_eq_false_iff_not] at *
    omega
  simp only [List.append_assoc, List.cons_append, unicodeEscape, fourHex_of_code first, bind,
    Except.bind, notLow, isHigh, if_true, Bool.false_eq_true, if_false, pairMark,
    fourHex_of_code second, isLow]
  simp [pure, Except.pure]

/-- The short escapes and the one by code cannot be confused. -/
theorem ne_u_of_short {letter c : Char} (short : shortEscape? letter = some c) : letter ≠ 'u' := by
  rintro rfl
  cases short

/-- What is spelled is read. -/
theorem chars_of_spells {t s : List Char} (spells : Spells t s) (rest : List Char) {fuel : Nat}
    (enough : t.length < fuel) (place : Position) : chars fuel ⟨t ++ '"' :: rest, place⟩ =
      .ok (s, ⟨rest, (t ++ ['"']).foldl Position.step place⟩) := by
  -- One case for each way to write a character. The body is longer than the string, so it pays
  -- for every round.
  induction spells generalizing fuel place with
  | nil =>
    obtain ⟨fuel, rfl⟩ := Nat.exists_eq_add_of_lt enough
    rfl
  | plain plain _ ih =>
    obtain ⟨fuel, rfl⟩ : ∃ n, fuel = n + 1 := ⟨fuel - 1, by omega⟩
    rw [List.length_cons] at enough
    rw [List.cons_append, chars_plain plain.1 plain.2.1 (Nat.not_lt.mpr plain.2.2), ih (by omega)]
    rfl
  | short short _ ih =>
    obtain ⟨fuel, rfl⟩ : ∃ n, fuel = n + 1 := ⟨fuel - 1, by omega⟩
    simp only [List.length_cons] at enough
    rw [List.cons_append, List.cons_append, chars_short (ne_u_of_short short) short, ih (by omega)]
    rfl
  | @code digits t s n code notHigh notLow _ ih =>
    obtain ⟨fuel, rfl⟩ : ∃ n, fuel = n + 1 := ⟨fuel - 1, by omega⟩
    simp only [List.length_cons, List.length_append] at enough
    have escaped := unicodeEscape_code code notHigh notLow (t ++ '"' :: rest)
      (['\\', 'u'].foldl Position.step place)
    have text : '\\' :: 'u' :: (digits ++ t) ++ '"' :: rest =
        '\\' :: 'u' :: digits ++ (t ++ '"' :: rest) := by simp
    rw [text, chars_code escaped, ih (by omega)]
    simp [Except.map]
  | @pair high low t s m n first isHigh second isLow _ ih =>
    obtain ⟨fuel, rfl⟩ : ∃ n, fuel = n + 1 := ⟨fuel - 1, by omega⟩
    simp only [List.length_cons, List.length_append] at enough
    have escaped := unicodeEscape_pair first isHigh second isLow (t ++ '"' :: rest)
      (['\\', 'u'].foldl Position.step place)
    have text : '\\' :: 'u' :: (high ++ '\\' :: 'u' :: (low ++ t)) ++ '"' :: rest =
        '\\' :: 'u' :: (high ++ '\\' :: 'u' :: low) ++ (t ++ '"' :: rest) := by simp
    rw [text, chars_code escaped, ih (by omega)]
    simp [Except.map]

theorem pairMark_cons (want got : Char) (rest : List Char) (place : Position) :
    pairMark want ⟨got :: rest, place⟩ = if got = want then .ok ⟨rest, place.step got⟩
      else Cursor.failPast ⟨got :: rest, place⟩ .unpairedSurrogate := rfl

/-- Half a pair of surrogates is read no further, unless the other half follows. -/
theorem exists_low_of_pairMark {t rest : List Char} (body : Body t) {place : Position}
    {c c' : Cursor} (slash : pairMark '\\' ⟨t ++ '"' :: rest, place⟩ = .ok c)
    (letter : pairMark 'u' c = .ok c') : ∃ low n t', Code low n ∧ Body t' ∧
      t = '\\' :: 'u' :: (low ++ t') ∧ c'.rest = low ++ (t' ++ '"' :: rest) := by
  cases body with
  | nil => cases slash
  | plain plain _ =>
    rw [List.cons_append, pairMark_cons, if_neg plain.2.1] at slash
    cases slash
  | short short _ =>
    rw [List.cons_append, List.cons_append, pairMark_cons, if_pos rfl] at slash
    cases slash
    rw [pairMark_cons, if_neg (ne_u_of_short short)] at letter
    cases letter
  | @code low t' n code body =>
    cases slash
    cases letter
    exact ⟨low, n, t', code, body, rfl, by simp⟩

/-- What is read behind a code, if anything is, is spelled: by the code itself, or by the code
and another one that makes a pair with it. -/
theorem spells_of_unicodeEscape {digits t rest : List Char} {n : Nat} (code : Code digits n)
    (body : Body t) {place : Position} {x : Char} {next : Cursor}
    (read : unicodeEscape ⟨digits ++ (t ++ '"' :: rest), place⟩ = .ok (x, next)) :
    ∃ t', next.rest = t' ++ '"' :: rest ∧ Body t' ∧
      ∀ s, Spells t' s → Spells ('\\' :: 'u' :: (digits ++ t)) (x :: s) := by
  -- A low surrogate is refused. A high one needs a low one behind it, and all else is a character
  -- of its own.
  simp only [unicodeEscape, fourHex_of_code code, bind, Except.bind] at read
  split at read
  · cases read
  next notLow =>
    rw [Bool.not_eq_true] at notLow
    split at read
    next isHigh =>
      split at read
      · cases read
      next c slash =>
        split at read
        · cases read
        next c' letter =>
          obtain ⟨low, m, t', second, body', rfl, behind⟩ :=
            exists_low_of_pairMark body slash letter
          have four : fourHex c' =
              .ok (m, ⟨t' ++ '"' :: rest, low.foldl Position.step c'.place⟩) := by
            rw [← fourHex_of_code second, ← behind]
          simp only [four] at read
          split at read
          next isLow =>
            obtain ⟨rfl, rfl⟩ := Prod.mk.inj (Except.ok.inj read)
            exact ⟨t', rfl, body', fun s rest => .pair code isHigh second isLow rest⟩
          · cases read
    next notHigh =>
      rw [Bool.not_eq_true] at notHigh
      obtain ⟨rfl, rfl⟩ := Prod.mk.inj (Except.ok.inj read)
      exact ⟨t, rfl, body, fun s rest => .code code notHigh notLow rest⟩

/-- What is read is spelled. The induction is on the fuel of the reader, with one escape or one
character to a step. -/
theorem spells_of_chars {t rest s : List Char} (body : Body t) {fuel : Nat} {place : Position}
    {next : Cursor} (read : chars fuel ⟨t ++ '"' :: rest, place⟩ = .ok (s, next)) :
    Spells t s := by
  induction fuel generalizing t s place next with
  | zero => cases read
  | succ fuel ih =>
    -- One character has been read, and the others are in what is left.
    have later {t' : List Char} {place' : Position} {c : Char} (body : Body t')
        (read : ((chars fuel ⟨t' ++ '"' :: rest, place'⟩).map fun r => (c :: r.1, r.2)) =
          .ok (s, next)) : ∃ s', s = c :: s' ∧ Spells t' s' := by
      cases left : chars fuel ⟨t' ++ '"' :: rest, place'⟩ with
      | error flaw =>
        rw [left] at read
        cases read
      | ok found =>
        rw [left] at read
        cases read
        exact ⟨_, rfl, ih body left⟩
    cases body with
    | nil =>
      cases read
      exact .nil
    | plain plain body =>
      rw [List.cons_append, chars_plain plain.1 plain.2.1 (Nat.not_lt.mpr plain.2.2)] at read
      obtain ⟨s', rfl, spells⟩ := later body read
      exact .plain plain spells
    | short short body =>
      rw [List.cons_append, List.cons_append, chars_short (ne_u_of_short short) short] at read
      obtain ⟨s', rfl, spells⟩ := later body read
      exact .short short spells
    | @code digits t n code body =>
      obtain ⟨⟨x, next'⟩, escaped, read⟩ := bind_eq_ok_iff.mp
        (show escape id unicodeEscape _ >>= (fun r =>
          chars fuel r.2 >>= fun q => .ok (r.1 :: q.1, q.2)) = .ok (s, next) from read)
      obtain ⟨⟨ys, next''⟩, left, made⟩ := bind_eq_ok_iff.mp read
      cases made
      have coded : unicodeEscape ⟨digits ++ (t ++ '"' :: rest), (place.step '\\').step 'u'⟩ =
          .ok (x, next') := by
        rw [← List.append_assoc]
        exact escaped
      obtain ⟨t', behind, body', spells⟩ := spells_of_unicodeEscape code body coded
      obtain ⟨_, place'⟩ := next'
      cases behind
      exact spells _ (ih body' left)

/-- A string is read as what it spells, and refused where it spells nothing. -/
theorem yields_string {t : List Char} (body : Body t) :
    (∃ s, Spells t s ∧ Yields string (t ++ ['"']) (some (String.ofList s))) ∨
      (∀ s, ¬ Spells t s) ∧ Yields string (t ++ ['"']) none := by
  by_cases spelled : ∃ s, Spells t s
  · obtain ⟨s, spells⟩ := spelled
    refine .inl ⟨s, spells, fun rest _ place => ?_⟩
    have read : chars (t ++ '"' :: rest).length _ = _ :=
      chars_of_spells spells rest (by simp) place
    rw [List.append_assoc, List.singleton_append]
    simp only [string, read, bind, Except.bind]
    rfl
  · have nothing : ∀ s, ¬ Spells t s := fun s spells => spelled ⟨s, spells⟩
    refine .inr ⟨nothing, fun rest _ place => ?_⟩
    rw [List.append_assoc, List.singleton_append]
    unfold string
    cases read : chars (t ++ '"' :: rest).length ⟨t ++ '"' :: rest, place⟩ with
    | error flaw => exact ⟨flaw, rfl⟩
    | ok found => exact absurd (spells_of_chars body read) (nothing _)

/-- To pass over a string it is enough that its escapes have the right form. -/
theorem skipChars_of_body {t : List Char} (body : Body t) (rest : List Char) {fuel : Nat}
    (enough : t.length < fuel) (place : Position) : skipChars fuel ⟨t ++ '"' :: rest, place⟩ =
      .ok ⟨rest, (t ++ ['"']).foldl Position.step place⟩ := by
  -- What is passed over need not spell anything: a surrogate may stand alone.
  induction body generalizing fuel place with
  | nil =>
    obtain ⟨fuel, rfl⟩ := Nat.exists_eq_add_of_lt enough
    rfl
  | plain plain _ ih =>
    obtain ⟨fuel, rfl⟩ : ∃ n, fuel = n + 1 := ⟨fuel - 1, by omega⟩
    rw [List.length_cons] at enough
    obtain ⟨notQuote, notSlash, notControl⟩ := plain
    simp only [List.cons_append, skipChars, if_neg notQuote, if_neg notSlash,
      if_neg (Nat.not_lt.mpr notControl)]
    exact ih (by omega) _
  | @short letter c t short _ ih =>
    obtain ⟨fuel, rfl⟩ : ∃ n, fuel = n + 1 := ⟨fuel - 1, by omega⟩
    simp only [List.length_cons] at enough
    have escaped : escape (fun _ => ()) skipUnicode
        ⟨letter :: (t ++ '"' :: rest), place.step '\\'⟩ =
          .ok ((), ⟨t ++ '"' :: rest, (place.step '\\').step letter⟩) := by
      simp [escape, ne_u_of_short short, short]
    show (escape (fun _ => ()) skipUnicode ⟨letter :: (t ++ '"' :: rest), place.step '\\'⟩ >>=
      fun r => skipChars fuel r.2) = _
    rw [escaped]
    exact ih (by omega) _
  | @code digits t n code _ ih =>
    obtain ⟨fuel, rfl⟩ : ∃ n, fuel = n + 1 := ⟨fuel - 1, by omega⟩
    simp only [List.length_cons, List.length_append] at enough
    have escaped : escape (fun _ => ()) skipUnicode
        ⟨'u' :: (digits ++ t ++ '"' :: rest), place.step '\\'⟩ =
          .ok ((), ⟨t ++ '"' :: rest,
            digits.foldl Position.step ((place.step '\\').step 'u')⟩) := by
      rw [List.append_assoc]
      simp only [escape, if_true, skipUnicode, fourHex_of_code code, bind, Except.bind]
      rfl
    show (escape (fun _ => ()) skipUnicode
      ⟨'u' :: (digits ++ t ++ '"' :: rest), place.step '\\'⟩ >>=
        fun r => skipChars fuel r.2) = _
    rw [escaped]
    refine (ih (by omega) _).trans ?_
    simp

/-- Passing over a string goes by its body alone. -/
theorem skipString_of_body {t : List Char} (body : Body t) (rest : List Char) (place : Position) :
    skipString ⟨t ++ '"' :: rest, place⟩ =
      .ok ⟨rest, (t ++ ['"']).foldl Position.step place⟩ :=
  skipChars_of_body body rest (by simp) place

/-! ## Numbers -/

/-- No digit comes next. -/
def NoDigit (rest : List Char) : Prop := ∀ c ∈ rest.head?, c.isDigit = false

theorem noDigit_cons {c : Char} (h : c.isDigit = false) (rest : List Char) :
    NoDigit (c :: rest) := by
  simpa [NoDigit] using h

/-- What parts a value from what follows is no digit. -/
theorem NoDigit.of_parted {rest : List Char} (parted : Parted rest) : NoDigit rest := by
  intro c first
  have other := parted c first
  unfold isNumeral at other
  simp only [Bool.or_eq_false_iff] at other
  exact other.1.1

/-- Digits are read to their end. -/
theorem digits_of_noDigit {t rest : List Char} (all : Decimal.AllDigits t) (stops : NoDigit rest)
    (place : Position) :
    Cursor.digits ⟨t ++ rest, place⟩ = t.map (fun d => d.toNat - '0'.toNat) ∧
      Cursor.afterDigits ⟨t ++ rest, place⟩ = ⟨rest, t.foldl Position.step place⟩ := by
  have taken : (t ++ rest).takeWhile Char.isDigit = t := by
    rw [List.takeWhile_append_of_pos all]
    cases rest with
    | nil => simp
    | cons c rest => simp [stops c rfl]
  have left : (t ++ rest).dropWhile Char.isDigit = rest := by
    rw [List.dropWhile_append_of_pos all]
    cases rest with
    | nil => simp
    | cons c rest => simp [stops c rfl]
  simp only [Cursor.digits, Cursor.afterDigits, Cursor.dropWhile, taken, left, and_self]

theorem atDigit_of_noDigit {rest : List Char} (stops : NoDigit rest) (place : Position) :
    Cursor.atDigit ⟨rest, place⟩ = false := by
  cases rest with
  | nil => rfl
  | cons c rest => exact stops c rfl

theorem Digits.atDigit {t : List Char} (digits : Digits t) (rest : List Char) (place : Position) :
    Cursor.atDigit ⟨t ++ rest, place⟩ = true := by
  obtain ⟨c, t, rfl⟩ := List.exists_cons_of_ne_nil digits.some_
  exact digits.all c List.mem_cons_self

/-- The digits before the point make a significand, whatever follows. -/
theorem wholePart_of_whole {w : List Char} (whole : Whole w) : ∃ s, ∀ rest, NoDigit rest →
    ∀ place, wholePart ⟨w ++ rest, place⟩ = .ok (s, ⟨rest, w.foldl Position.step place⟩) := by
  cases whole with
  | zero =>
    refine ⟨⟨0, 0⟩, fun rest stops place => ?_⟩
    simp [wholePart, atDigit_of_noDigit stops]
  | @other c t digits notZero =>
    refine ⟨((c :: t).map fun d => d.toNat - '0'.toNat).foldl Significand.whole ⟨0, 0⟩,
      fun rest stops place => ?_⟩
    obtain ⟨values, behind⟩ := digits_of_noDigit digits.all stops place
    have isDigit : c.isDigit = true := digits.all c List.mem_cons_self
    unfold wholePart
    split
    next empty => cases empty
    next zero =>
      cases zero
      exact absurd rfl notZero
    next x tail _ shape =>
      obtain rfl : c = x := (List.cons.inj shape).1
      rw [if_pos isDigit, values, behind]

/-- So do the digits behind the point. -/
theorem fractionPart_of_fraction {f : List Char} (fraction : Fraction f) (s : Significand) :
    ∃ o, ∀ rest, NoDigit rest → rest.head? ≠ some '.' → ∀ place,
      fractionPart s ⟨f ++ rest, place⟩ = .ok (o, ⟨rest, f.foldl Position.step place⟩) := by
  cases fraction with
  | none =>
    refine ⟨none, fun rest _ noPoint place => ?_⟩
    unfold fractionPart
    split
    next point => exact absurd (congrArg List.head? point) noPoint
    next => rfl
  | @some t digits =>
    refine ⟨some (s.fraction (t.map fun d => d.toNat - '0'.toNat)), fun rest stops _ place => ?_⟩
    obtain ⟨values, behind⟩ := digits_of_noDigit digits.all stops (place.step '.')
    simp only [fractionPart, List.cons_append, digits.atDigit, if_true, values, behind]
    rfl

/-- Nothing comes next that would go on with a number. -/
theorem Parted.noMark {rest : List Char} (parted : Parted rest) :
    ∀ c ∈ rest.head?, isExponentMark c = false := by
  intro c first
  have other := parted c first
  unfold isNumeral at other
  simp only [Bool.or_eq_false_iff] at other
  exact other.2

/-- The sign of an exponent is read, and only a minus counts. -/
theorem exponentSign_of_digits {t : List Char} (digits : Digits t) {sign : List Char}
    (isSign : sign = [] ∨ sign = ['+'] ∨ sign = ['-']) (rest : List Char) (place : Position) :
    exponentSign ⟨sign ++ (t ++ rest), place⟩ =
      (decide (sign = ['-']), ⟨t ++ rest, sign.foldl Position.step place⟩) := by
  obtain rfl | rfl | rfl := isSign
  · obtain ⟨c, t, rfl⟩ := List.exists_cons_of_ne_nil digits.some_
    have isDigit : c.isDigit = true := digits.all c List.mem_cons_self
    unfold exponentSign
    split
    next minus =>
      cases minus
      cases isDigit
    next plus =>
      cases plus
      cases isDigit
    next => rfl
  · rfl
  · rfl

/-- The digits of an exponent are read to their end, unless they are out of range. -/
theorem exponentPart_of_digits {t : List Char} (digits : Digits t) {sign : List Char}
    (isSign : sign = [] ∨ sign = ['+'] ∨ sign = ['-']) (s : Significand) :
    (∃ s', ∀ rest, NoDigit rest → ∀ place, exponentPart s ⟨sign ++ (t ++ rest), place⟩ =
      .ok (s', ⟨rest, t.foldl Position.step (sign.foldl Position.step place)⟩)) ∨
    ∀ rest, NoDigit rest → ∀ place, ∃ flaw,
      exponentPart s ⟨sign ++ (t ++ rest), place⟩ = .error flaw := by
  let values := t.map fun d => d.toNat - '0'.toNat
  let down := decide (sign = ['-'])
  -- Whether the exponent is too large is a matter of its digits, and not of what follows them.
  have entered (rest : List Char) (stops : NoDigit rest) (place : Position) :
      exponentPart s ⟨sign ++ (t ++ rest), place⟩ =
        let start := sign.foldl Position.step place
        let behind : Cursor := ⟨rest, t.foldl Position.step start⟩
        let e : Int := (values.foldl (fun v d => v * 10 + d) 0 : Nat)
        (exponentPasses? 0 values).elim
          (.ok ({ s with shift := if down then s.shift - e else s.shift + e }, behind))
          fun count =>
            if s.significand != 0 && !down then
              .error ⟨.numberOutOfRange, start.afterBytes count (t ++ rest)⟩
            else .ok (⟨0, 0⟩, behind) := by
    have signed := exponentSign_of_digits digits isSign rest place
    obtain ⟨isValues, isBehind⟩ := digits_of_noDigit digits.all stops
      (sign.foldl Position.step place)
    obtain ⟨x, t', rfl⟩ := List.exists_cons_of_ne_nil digits.some_
    have isDigit : x.isDigit = true := digits.all x List.mem_cons_self
    rw [List.cons_append] at *
    simp only [exponentPart, signed, isDigit, if_true, isValues, isBehind]
    cases exponentPasses? 0 values <;> rfl
  cases passes : exponentPasses? 0 values with
  | some count =>
    cases out : s.significand != 0 && !down with
    | true => exact .inr fun rest stops place => ⟨_, by rw [entered rest stops, passes, out]; rfl⟩
    | false => exact .inl ⟨_, fun rest stops place => by rw [entered rest stops, passes, out]; rfl⟩
  | none => exact .inl ⟨_, fun rest stops place => by rw [entered rest stops, passes]; rfl⟩

/-- An exponent is read to its end, unless it is out of range. -/
theorem exponentPart?_of_exponent {e : List Char} (exponent : Exponent e) (s : Significand) :
    (∃ o, ∀ rest, Parted rest → ∀ place, exponentPart? s ⟨e ++ rest, place⟩ =
      .ok (o, ⟨rest, e.foldl Position.step place⟩)) ∨
    ∀ rest, Parted rest → ∀ place, ∃ flaw, exponentPart? s ⟨e ++ rest, place⟩ = .error flaw := by
  cases exponent with
  | none =>
    refine .inl ⟨none, fun rest parted place => ?_⟩
    cases rest with
    | nil => rfl
    | cons c rest =>
      have noMark := parted.noMark c rfl
      simp [exponentPart?, noMark]
  | @some mark sign t isMark isSign digits =>
    have entered (rest : List Char) (place : Position) :
        exponentPart? s ⟨mark :: (sign ++ t) ++ rest, place⟩ =
          exponentPart s ⟨sign ++ (t ++ rest), place.step mark⟩ >>=
            fun r => .ok (some r.1, r.2) := by
      simp only [exponentPart?, List.cons_append, isMark, if_true, List.append_assoc]
      rfl
    simp only [entered]
    obtain ⟨s', read⟩ | refused := exponentPart_of_digits digits isSign s
    · refine .inl ⟨some s', fun rest parted place => ?_⟩
      rw [read rest (.of_parted parted)]
      simp [bind, Except.bind]
    · refine .inr fun rest parted place => ?_
      obtain ⟨flaw, refused⟩ := refused rest (.of_parted parted) (place.step mark)
      exact ⟨flaw, by rw [refused]; rfl⟩

/-- Behind the digits before the point, a number does not go on with digits. -/
theorem noDigit_of_parts {f e rest : List Char} (fraction : Fraction f) (exponent : Exponent e)
    (parted : Parted rest) : NoDigit (f ++ (e ++ rest)) ∧ NoDigit (e ++ rest) ∧
      (e ++ rest).head? ≠ some '.' := by
  have mark {c : Char} (isMark : isExponentMark c) : c.isDigit = false ∧ c ≠ '.' := by
    simp only [isExponentMark, Bool.or_eq_true, decide_eq_true_eq] at isMark
    obtain rfl | rfl := isMark <;> decide
  have second : NoDigit (e ++ rest) ∧ (e ++ rest).head? ≠ some '.' := by
    cases exponent with
    | none =>
      refine ⟨.of_parted parted, fun point => ?_⟩
      cases parted '.' point
    | some isMark _ _ =>
      exact ⟨noDigit_cons (mark isMark).1 _, by simpa using (mark isMark).2⟩
  refine ⟨?_, second⟩
  cases fraction with
  | none => exact second.1
  | some _ => exact noDigit_cons (by decide) _

/-- The sign of a number is read before its whole part. -/
theorem numberSign_of_whole {sign w : List Char} (isSign : sign = [] ∨ sign = ['-'])
    (whole : Whole w) (rest : List Char) (place : Position) :
    numberSign ⟨sign ++ (w ++ rest), place⟩ =
      (decide (sign = ['-']), ⟨w ++ rest, sign.foldl Position.step place⟩) := by
  obtain rfl | rfl := isSign
  · cases whole with
    | zero => rfl
    | @other c t digits _ =>
      have isDigit : c.isDigit = true := digits.all c List.mem_cons_self
      unfold numberSign
      split
      next minus =>
        cases minus
        cases isDigit
      next => rfl
  · rfl

/-- A number begins with its sign or with a digit. -/
theorem Numeral.begins {t : List Char} (numeral : Numeral t) :
    ∃ c rest, t = c :: rest ∧ (c = '-' ∨ c.isDigit = true) := by
  obtain ⟨rfl | rfl, whole, -, -⟩ := numeral
  · cases whole with
    | zero => exact ⟨_, _, rfl, .inr rfl⟩
    | other digits _ => exact ⟨_, _, rfl, .inr (digits.all _ List.mem_cons_self)⟩
  · exact ⟨_, _, rfl, .inl rfl⟩

/-- The parts before the exponent are read the same way whatever follows the number. What stands
behind the exponent decides whether it is an integer, and if not, whether it is in range. -/
theorem number_of_parts {sign w f e : List Char} (isSign : sign = [] ∨ sign = ['-'])
    (whole : Whole w) (fraction : Fraction f) (exponent : Exponent e) :
    ∃ (s : Significand) (fraction? : Option Significand), ∀ rest, Parted rest → ∀ place,
      number ⟨sign ++ (w ++ (f ++ e)) ++ rest, place⟩ =
        exponentPart? (fraction?.getD s) ⟨e ++ rest, f.foldl Position.step
          (w.foldl Position.step (sign.foldl Position.step place))⟩ >>= fun r =>
            if fraction?.isNone && r.1.isNone && s.shift == 0 then
              .ok (s.number (decide (sign = ['-'])), r.2)
            else
              (r.1.getD (fraction?.getD s)).double?.elim (r.2.fail .numberOutOfRange)
                fun x => .ok (.double (signed (decide (sign = ['-'])) x), r.2) := by
  obtain ⟨s, readWhole⟩ := wholePart_of_whole whole
  obtain ⟨fraction?, readFraction⟩ := fractionPart_of_fraction fraction s
  refine ⟨s, fraction?, fun rest parted place => ?_⟩
  -- Each part ends where the next begins, because that begins with no digit.
  obtain ⟨stopsWhole, stopsFraction, noPoint⟩ := noDigit_of_parts fraction exponent parted
  have text : sign ++ (w ++ (f ++ e)) ++ rest = sign ++ (w ++ (f ++ (e ++ rest))) := by simp
  rw [text]
  simp only [number, numberSign_of_whole isSign whole, readWhole _ stopsWhole, bind,
    Except.bind, readFraction _ stopsFraction noPoint]
  cases exponentPart? (fraction?.getD s) ⟨e ++ rest, f.foldl Position.step
    (w.foldl Position.step (sign.foldl Position.step place))⟩ with
  | error flaw => rfl
  | ok r =>
    obtain ⟨scaled?, c⟩ := r
    cases made : (scaled?.getD (fraction?.getD s)).double? <;> simp only [made] <;> rfl

/-- Where a number ends is settled by its text, and so is whether it is out of range. -/
theorem settles_number {t : List Char} (numeral : Numeral t) : Settles number t := by
  obtain ⟨isSign, whole, fraction, exponent⟩ := numeral
  rename_i sign w f e
  obtain ⟨s, fraction?, entered⟩ := number_of_parts isSign whole fraction exponent
  have ends (place : Position) : e.foldl Position.step (f.foldl Position.step
      (w.foldl Position.step (sign.foldl Position.step place))) =
        (sign ++ (w ++ (f ++ e))).foldl Position.step place := by simp
  obtain ⟨scaled?, readExponent⟩ | refused :=
    exponentPart?_of_exponent exponent (fraction?.getD s)
  · -- An integer always settles. A double may be out of range.
    by_cases isWhole : fraction?.isNone && scaled?.isNone && s.shift == 0
    · refine ⟨some (s.number (decide (sign = ['-']))), fun rest parted place => ?_⟩
      rw [entered rest parted, readExponent rest parted, ends]
      exact if_pos isWhole
    · cases made : (scaled?.getD (fraction?.getD s)).double? with
      | some x =>
        refine ⟨some (.double (signed (decide (sign = ['-'])) x)), fun rest parted place => ?_⟩
        rw [entered rest parted, readExponent rest parted, ends]
        refine (if_neg isWhole).trans ?_
        rw [made]
        rfl
      | none =>
        refine ⟨none, fun rest parted place => ⟨⟨.numberOutOfRange,
          (sign ++ (w ++ (f ++ e))).foldl Position.step place⟩, ?_⟩⟩
        rw [entered rest parted, readExponent rest parted, ends]
        refine (if_neg isWhole).trans ?_
        rw [made]
        rfl
  · refine ⟨none, fun rest parted place => ?_⟩
    obtain ⟨flaw, refused⟩ := refused rest parted _
    exact ⟨flaw, by rw [entered rest parted, refused]; rfl⟩

theorem skipDigits_of_digits {t rest : List Char} (digits : Digits t) (stops : NoDigit rest)
    (place : Position) :
    skipDigits ⟨t ++ rest, place⟩ = .ok ⟨rest, t.foldl Position.step place⟩ := by
  rw [skipDigits, digits.atDigit, (digits_of_noDigit digits.all stops place).2]
  rfl

/-- An exponent is passed over, and so is none. -/
theorem skipExponent_of_exponent {e rest : List Char} (exponent : Exponent e)
    (parted : Parted rest) (place : Position) :
    skipExponent ⟨e ++ rest, place⟩ = .ok ⟨rest, e.foldl Position.step place⟩ := by
  cases exponent with
  | none =>
    cases rest with
    | nil => rfl
    | cons c rest => simp [skipExponent, parted.noMark c rfl]
  | @some mark sign t isMark isSign digits =>
    simp only [skipExponent, List.cons_append, isMark, if_true, List.append_assoc,
      exponentSign_of_digits digits isSign, skipDigits_of_digits digits (.of_parted parted)]
    simp

/-- What is passed over of a number behind the digits before its point. -/
def skipTail (c : Cursor) : Except Flaw Cursor :=
  match c.rest with
  | '.' :: rest => do
    let c ← skipDigits ⟨rest, c.place.step '.'⟩
    skipExponent c
  | _ => skipExponent c

/-- The fraction and the exponent are passed over together. -/
theorem skipTail_of_parts {f e rest : List Char} (fraction : Fraction f) (exponent : Exponent e)
    (parted : Parted rest) (place : Position) : skipTail ⟨f ++ (e ++ rest), place⟩ =
      .ok ⟨rest, e.foldl Position.step (f.foldl Position.step place)⟩ := by
  obtain ⟨-, stops, noPoint⟩ := noDigit_of_parts fraction exponent parted
  cases fraction with
  | none =>
    unfold skipTail
    split
    next point => exact absurd (congrArg List.head? point) noPoint
    next => exact skipExponent_of_exponent exponent parted place
  | @some t digits =>
    show (skipDigits ⟨t ++ (e ++ rest), place.step '.'⟩ >>= skipExponent) = _
    rw [skipDigits_of_digits digits stops]
    exact skipExponent_of_exponent exponent parted _

/-- A number is passed over whatever its size. -/
theorem skipNumber_of_numeral {t rest : List Char} (numeral : Numeral t) (parted : Parted rest)
    (place : Position) : skipNumber ⟨t ++ rest, place⟩ =
      .ok ⟨rest, t.foldl Position.step place⟩ := by
  obtain ⟨isSign, whole, fraction, exponent⟩ := numeral
  rename_i sign w f e
  have text : sign ++ (w ++ (f ++ e)) ++ rest = sign ++ (w ++ (f ++ (e ++ rest))) := by simp
  have tail := skipTail_of_parts fraction exponent parted
    (w.foldl Position.step (sign.foldl Position.step place))
  have stops := (noDigit_of_parts fraction exponent parted).1
  rw [text, List.foldl_append, List.foldl_append, List.foldl_append, ← tail]
  simp only [skipNumber, numberSign_of_whole isSign whole]
  -- A zero in front must be alone.
  cases whole with
  | zero =>
    show (if Cursor.atDigit ⟨f ++ (e ++ rest), _⟩ then _ else skipTail ⟨f ++ (e ++ rest), _⟩) = _
    rw [atDigit_of_noDigit stops]
    rfl
  | @other c t digits notZero =>
    split
    next zero =>
      cases zero
      exact absurd rfl notZero
    next =>
      rw [skipDigits_of_digits digits stops]
      rfl

end Rendezvous.Json
