import Mathlib.Data.Nat.Digits.Defs
import Rendezvous.Json.Decoder

/-!
# Reading what was written

A reader is known by what it takes off the front of a text. `Reads` says that it takes a
given text, whole, and gives a given thing, wherever the text stands. What comes behind the
text matters to numbers only, which go on as long as they can, and `Parted` is all that is
ever asked of it.

Here are the leaves: strings with every escape that is written, and the whole numbers that fit
a word of 64 bits. What is read off the written form of each is the thing itself
(`reads_printString`, `reads_printInt`).
-/

namespace Rendezvous.Json

/-- In front of `rest`, the reader takes exactly this text and gives `x`. -/
def Reads {α : Type} (read : Reader α) (text : List Char) (x : α) (rest : List Char) : Prop :=
  ∀ place, read ⟨text ++ rest, place⟩ = .ok (x, ⟨rest, text.foldl Position.step place⟩)

/-- The character could be part of a number that has begun. -/
def isNumeral (c : Char) : Bool := c.isDigit || c = '.' || isExponentMark c

/-- Nothing that comes here would be taken for a part of a number before it. -/
def Parted (rest : List Char) : Prop := ∀ c ∈ rest.head?, isNumeral c = false

theorem parted_cons {c : Char} (h : isNumeral c = false) (rest : List Char) :
    Parted (c :: rest) := by
  intro x hx
  obtain rfl : c = x := by simpa using hx
  exact h

/-- What parts a number from what follows goes on with none of its parts. -/
theorem Parted.head {c : Char} {rest : List Char} (parted : Parted (c :: rest)) :
    c.isDigit = false ∧ c ≠ '.' ∧ isExponentMark c = false := by
  have other := parted c rfl
  unfold isNumeral at other
  simpa [and_assoc] using other

/-- A token that begins here is not looked for further on. -/
theorem atToken_cons {c : Char} (h : isSpacing c = false) (rest : List Char) (place : Position) :
    Cursor.atToken ⟨c :: rest, place⟩ = ⟨c :: rest, place⟩ := by
  simp [Cursor.atToken, Cursor.dropWhile, h]

/-! ## Strings -/

theorem hexValue?_hexDigit : ∀ n < 16, hexValue? (hexDigit n) = some n := by decide

/-- A control that has no short escape is read from the four digits of its code. -/
theorem unicodeEscape_control {c : Char} (h : c.toNat < 0x20) (rest : List Char)
    (place : Position) :
    let digits := ['0', '0', hexDigit (c.toNat / 16), hexDigit (c.toNat % 16)]
    unicodeEscape ⟨digits ++ rest, place⟩ = .ok (c, ⟨rest, digits.foldl Position.step place⟩) := by
  have zero : hexValue? '0' = some 0 := hexValue?_hexDigit 0 (by omega)
  have high := hexValue?_hexDigit (c.toNat / 16) (by omega)
  have low := hexValue?_hexDigit (c.toNat % 16) (by omega)
  have code : ((0 * 16 + 0) * 16 + c.toNat / 16) * 16 + c.toNat % 16 = c.toNat := by omega
  have notLow : isLowSurrogate c.toNat = false := by simp [isLowSurrogate]; omega
  have notHigh : isHighSurrogate c.toNat = false := by simp [isHighSurrogate]; omega
  intro digits
  have four : fourHex ⟨digits ++ rest, place⟩ =
      .ok (c.toNat, ⟨rest, digits.foldl Position.step place⟩) := by
    simp only [digits, List.cons_append, List.nil_append, fourHex, zero, high, low, code]
  simp only [unicodeEscape, four, bind, Except.bind, notLow, notHigh]
  simp [Char.ofNat_toNat, pure, Except.pure]

section
variable {c : Char} {rest : List Char} {place : Position}

/-- A character that needs no escape stands for itself. -/
theorem chars_plain (notQuote : c ≠ '"') (notSlash : c ≠ '\\') (notControl : ¬ c.toNat < 0x20)
    (fuel : Nat) :
    chars (fuel + 1) ⟨c :: rest, place⟩ =
      (chars fuel ⟨rest, place.step c⟩).map fun (cs, next) => (c :: cs, next) := by
  simp only [chars, if_neg notQuote, if_neg notSlash, if_neg notControl]
  cases chars fuel ⟨rest, place.step c⟩ <;> rfl

/-- An escape of one letter stands for its character. -/
theorem chars_short {letter : Char} (notCode : letter ≠ 'u') (short : shortEscape? letter = some c)
    (fuel : Nat) :
    chars (fuel + 1) ⟨'\\' :: letter :: rest, place⟩ =
      (chars fuel ⟨rest, ['\\', letter].foldl Position.step place⟩).map
        fun (cs, next) => (c :: cs, next) := by
  have escaped : escape id unicodeEscape ⟨letter :: rest, place.step '\\'⟩ =
      .ok (c, ⟨rest, ['\\', letter].foldl Position.step place⟩) := by
    simp [escape, notCode, short]
  simp only [chars, escaped, bind, Except.bind]
  cases chars fuel ⟨rest, ['\\', letter].foldl Position.step place⟩ <;> rfl

/-- An escape by a code stands for the character of the code. -/
theorem chars_code {digits : List Char}
    (coded : unicodeEscape ⟨digits ++ rest, ['\\', 'u'].foldl Position.step place⟩ =
      .ok (c, ⟨rest, ('\\' :: 'u' :: digits).foldl Position.step place⟩)) (fuel : Nat) :
    chars (fuel + 1) ⟨'\\' :: 'u' :: digits ++ rest, place⟩ =
      (chars fuel ⟨rest, ('\\' :: 'u' :: digits).foldl Position.step place⟩).map
        fun (cs, next) => (c :: cs, next) := by
  have escaped : escape id unicodeEscape ⟨'u' :: (digits ++ rest), place.step '\\'⟩ =
      .ok (c, ⟨rest, ('\\' :: 'u' :: digits).foldl Position.step place⟩) := coded
  simp only [chars, List.cons_append, escaped, bind, Except.bind]
  cases chars fuel ⟨rest, ('\\' :: 'u' :: digits).foldl Position.step place⟩ <;> rfl

end

/-- Whichever way a character is written, it is read as that character. -/
theorem chars_printChar (c : Char) (fuel : Nat) (rest : List Char) (place : Position) :
    chars (fuel + 1) ⟨printChar c ++ rest, place⟩ =
      (chars fuel ⟨rest, (printChar c).foldl Position.step place⟩).map
        fun (cs, next) => (c :: cs, next) := by
  unfold printChar
  -- The seven characters that have an escape of one letter, one after the other.
  iterate 7
    split
    next h =>
      subst h
      exact chars_short (by decide) rfl fuel
  split
  next control => exact chars_code (unicodeEscape_control control ..) fuel
  next notQuote notSlash _ _ _ _ _ notControl => exact chars_plain notQuote notSlash notControl fuel

/-- The characters of a string are read back from how they are printed, up to the quote. -/
theorem chars_flatMap (cs rest : List Char) {fuel : Nat} (enough : cs.length < fuel)
    (place : Position) :
    chars fuel ⟨cs.flatMap printChar ++ '"' :: rest, place⟩ =
      .ok (cs, ⟨rest, (cs.flatMap printChar ++ ['"']).foldl Position.step place⟩) := by
  induction cs generalizing fuel place with
  | nil =>
    obtain ⟨fuel, rfl⟩ : ∃ n, fuel = n + 1 := ⟨fuel - 1, by omega⟩
    rfl
  | cons c cs ih =>
    obtain ⟨fuel, rfl⟩ : ∃ n, fuel = n + 1 := ⟨fuel - 1, by omega⟩
    have later : cs.length < fuel := by simp at enough; omega
    rw [List.flatMap_cons, List.append_assoc, chars_printChar, ih later]
    simp [Except.map]

/-- No character is printed as nothing, so the text is enough as fuel. -/
theorem length_le_flatMap_printChar (cs : List Char) :
    cs.length ≤ (cs.flatMap printChar).length := by
  induction cs with
  | nil => simp
  | cons c cs ih =>
    have some : 0 < (printChar c).length := by
      unfold printChar
      split_ifs <;> simp
    simp only [List.flatMap_cons, List.length_append, List.length_cons]
    omega

/-- Behind its opening quote, a written string is read as the string. -/
theorem reads_printString (s : String) (rest : List Char) :
    Reads string (s.toList.flatMap printChar ++ ['"']) s rest := by
  intro place
  have enough : s.toList.length < (s.toList.flatMap printChar ++ '"' :: rest).length := by
    have := length_le_flatMap_printChar s.toList
    simp only [List.length_append, List.length_cons]
    omega
  have read := chars_flatMap s.toList rest enough place
  rw [List.append_assoc, List.singleton_append]
  simp only [string, read, bind, Except.bind]
  simp [pure, Except.pure, String.ofList_toList]

/-! ## Whole numbers -/

/-- Digits are read off to where they are parted from the rest. -/
theorem digits_parted {digits rest : List Char} (all : ∀ c ∈ digits, c.isDigit = true)
    (parted : Parted rest) :
    (digits ++ rest).takeWhile Char.isDigit = digits ∧
      (digits ++ rest).dropWhile Char.isDigit = rest := by
  rw [List.takeWhile_append_of_pos all, List.dropWhile_append_of_pos all]
  cases rest with
  | nil => simp
  | cons c rest =>
    simp [parted.head.1]

/-- As long as a number fits, its digits add up to it. -/
theorem foldl_whole_toDigits {n : Nat} (fits : n ≤ significandMax) :
    ((Nat.toDigits 10 n).map fun d => d.toNat - '0'.toNat).foldl Significand.whole ⟨0, 0⟩
      = ⟨n, 0⟩ := by
  -- The last digit is the remainder by ten, and the others are those of the quotient.
  induction n using Nat.strongRecOn with
  | ind n ih =>
    have inside : ¬ significandMax < n := by omega
    have last : (n % 10).digitChar.toNat - '0'.toNat = n % 10 := by
      rw [Nat.toNat_digitChar_of_lt_ten (by omega)]
      show 48 + n % 10 - 48 = n % 10
      omega
    rw [Nat.toDigits_eq_if (by omega)]
    split
    next small =>
      rw [Nat.mod_eq_of_lt small] at last
      rw [List.map_singleton, List.foldl_cons, List.foldl_nil, last]
      simp [Significand.whole, inside]
    next large =>
      have whole : n / 10 * 10 + n % 10 = n := by omega
      rw [List.map_append, List.foldl_append, ih (n / 10) (by omega) (by omega),
        List.map_singleton, List.foldl_cons, List.foldl_nil, last]
      simp [Significand.whole, whole, inside]

/-- A number is printed with one digit at least. -/
theorem exists_toDigits (n : Nat) :
    ∃ d ds, Nat.toDigits 10 n = d :: ds ∧ d.isDigit = true := by
  obtain ⟨d, ds, digits⟩ := List.exists_cons_of_ne_nil (Nat.toDigits_ne_nil (n := n) (b := 10))
  exact ⟨d, ds, digits, Nat.isDigit_of_mem_toDigits (by omega) (by omega)
    (digits ▸ List.mem_cons_self)⟩

/-- Only zero is written with a zero in front. -/
theorem head_toDigits {n : Nat} (pos : 0 < n) :
    ∃ d ds, Nat.toDigits 10 n = d :: ds ∧ d ≠ '0' := by
  induction n using Nat.strongRecOn with
  | ind n ih =>
    rw [Nat.toDigits_eq_if (by omega)]
    split
    next small =>
      refine ⟨_, [], rfl, fun zero => ?_⟩
      have code := Nat.toNat_digitChar_of_lt_ten small
      have zeroCode : '0'.toNat = 48 := rfl
      rw [zero] at code
      omega
    next large =>
      obtain ⟨d, ds, digits, notZero⟩ := ih (n / 10) (by omega) (by omega)
      exact ⟨d, ds ++ [(n % 10).digitChar], by rw [digits]; rfl, notZero⟩

theorem atDigit_of_parted {rest : List Char} (parted : Parted rest) (place : Position) :
    Cursor.atDigit ⟨rest, place⟩ = false := by
  cases rest with
  | nil => rfl
  | cons c rest => exact parted.head.1

/-- The digits of a number are read as its significand. -/
theorem wholePart_toDigits {n : Nat} (fits : n ≤ significandMax) {rest : List Char}
    (parted : Parted rest) (place : Position) :
    wholePart ⟨Nat.toDigits 10 n ++ rest, place⟩ =
      .ok (⟨n, 0⟩, ⟨rest, (Nat.toDigits 10 n).foldl Position.step place⟩) := by
  rcases Nat.eq_zero_or_pos n with rfl | pos
  · show wholePart ⟨'0' :: rest, place⟩ = _
    simp [wholePart, atDigit_of_parted parted]
  · have all : ∀ c ∈ Nat.toDigits 10 n, c.isDigit = true :=
      fun c mem => Nat.isDigit_of_mem_toDigits (by omega) (by omega) mem
    obtain ⟨taken, left⟩ := digits_parted all parted
    obtain ⟨d, ds, digits, notZero⟩ := head_toDigits pos
    have isDigit : d.isDigit = true := all d (by simp [digits])
    unfold wholePart
    split
    next empty => simp [digits] at empty
    next zero => simp [digits, notZero] at zero
    next x _ _ shape =>
      obtain rfl : d = x := by simp [digits] at shape; exact shape.1
      simp only [isDigit, if_true, Cursor.digits, Cursor.afterDigits, Cursor.dropWhile, taken, left,
        foldl_whole_toDigits fits]

/-- Behind digits that nothing follows there is neither a fraction nor an exponent. -/
theorem fractionPart_of_parted {rest : List Char} (parted : Parted rest) (s : Significand)
    (place : Position) : fractionPart s ⟨rest, place⟩ = .ok (none, ⟨rest, place⟩) := by
  unfold fractionPart
  split
  next point =>
    cases point
    exact absurd rfl parted.head.2.1
  next => rfl

theorem exponentPart?_of_parted {rest : List Char} (parted : Parted rest) (s : Significand)
    (place : Position) : exponentPart? s ⟨rest, place⟩ = .ok (none, ⟨rest, place⟩) := by
  cases rest with
  | nil => rfl
  | cons c rest =>
    simp [exponentPart?, parted.head.2.2]

/-- Behind its sign, a number that is all digits is whole. -/
theorem number_of_sign {c : Cursor} {negative : Bool} {m : Nat} {rest : List Char}
    {place : Position} (sign : numberSign c = (negative, ⟨Nat.toDigits 10 m ++ rest, place⟩))
    (fits : m ≤ significandMax) (parted : Parted rest) :
    number c = .ok ((⟨m, 0⟩ : Significand).number negative,
      ⟨rest, (Nat.toDigits 10 m).foldl Position.step place⟩) := by
  unfold number
  simp only [sign, wholePart_toDigits fits parted, fractionPart_of_parted parted,
    exponentPart?_of_parted parted, bind, Except.bind, Option.getD_none]
  rfl

theorem Integer.natAbs_le (n : Integer) : n.val.natAbs ≤ significandMax := by
  have lower := n.lower
  have upper := n.upper
  unfold significandMax
  omega

theorem Integer.ofInt?_val (n : Integer) : Integer.ofInt? n.val = some n :=
  dif_pos ⟨n.lower, n.upper⟩

/-- A sign and the digits of an integer make that integer, and no double. -/
theorem number_natAbs (n : Integer) :
    (⟨n.val.natAbs, 0⟩ : Significand).number (decide (n.val < 0)) = .integer n := by
  have value :
      (if decide (n.val < 0) = true then -(n.val.natAbs : Int) else n.val.natAbs) = n.val := by
    split
    next below =>
      rw [decide_eq_true_eq] at below
      omega
    next notBelow =>
      rw [decide_eq_true_eq] at notBelow
      omega
  have notMinusZero : (decide (n.val < 0) && n.val.natAbs == 0) = false := by
    rw [Bool.and_eq_false_iff, decide_eq_false_iff_not, beq_eq_false_iff_ne]
    omega
  unfold Significand.number
  dsimp only
  rw [value, n.ofInt?_val]
  dsimp only
  rw [notMinusZero, if_neg Bool.false_ne_true]

/-- A written integer begins with its sign or a digit. -/
theorem exists_printInt (n : Int) :
    ∃ c cs, printInt n = c :: cs ∧ (c = '-' ∨ c.isDigit = true) := by
  unfold printInt
  split
  next => exact ⟨_, _, rfl, Or.inl rfl⟩
  next =>
    obtain ⟨d, ds, digits, isDigit⟩ := exists_toDigits n.natAbs
    exact ⟨d, ds, digits, Or.inr isDigit⟩

/-- An integer is read off its digits. -/
theorem reads_printInt (n : Integer) {rest : List Char} (parted : Parted rest) :
    Reads number (printInt n.val) (.integer n) rest := by
  intro place
  have made := number_natAbs n
  unfold printInt
  split
  next below =>
    have sign : numberSign ⟨'-' :: Nat.toDigits 10 n.val.natAbs ++ rest, place⟩ =
        (true, ⟨Nat.toDigits 10 n.val.natAbs ++ rest, place.step '-'⟩) := rfl
    rw [decide_eq_true below] at made
    rw [number_of_sign sign n.natAbs_le parted, made, List.foldl_cons]
  next notBelow =>
    -- No digit is a minus sign, so the reader sees that there is none.
    have sign : numberSign ⟨Nat.toDigits 10 n.val.natAbs ++ rest, place⟩ =
        (false, ⟨Nat.toDigits 10 n.val.natAbs ++ rest, place⟩) := by
      obtain ⟨d, ds, digits, isDigit⟩ := exists_toDigits n.val.natAbs
      rw [digits]
      unfold numberSign
      split
      next minus =>
        obtain ⟨rfl, -⟩ : d = '-' ∧ _ := by simpa using minus
        cases isDigit
      next => rfl
    rw [decide_eq_false notBelow] at made
    rw [number_of_sign sign n.natAbs_le parted, made]

end Rendezvous.Json
