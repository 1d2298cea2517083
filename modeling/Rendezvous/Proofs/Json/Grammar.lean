import Rendezvous.Json.Decoder
import Rendezvous.Proofs.Decimal.Word

/-!
# The grammar of JSON text

What JSON text is, said without a reader: strings and what they spell, numerals, and values
with brackets in brackets, blanks wherever they may stand. Half a surrogate pair is part of the
grammar, but it spells no string. A text of a value comes with a bound on the brackets that are
open at once, since a reader that keeps values has one too.
-/

namespace Rendezvous.Json

/-! ## Blanks and parts -/

/-- Nothing but the characters that may stand between tokens. -/
def Blank (t : List Char) : Prop := ∀ c ∈ t, isSpacing c

instance : DecidablePred Blank := fun t => List.decidableBAll (isSpacing ·) t

/-- A text with blanks before it and behind it. -/
structure Padded where
  before : List Char
  text : List Char
  after : List Char

namespace Padded

/-- What stands around the text is blank. -/
structure Clear (p : Padded) : Prop where
  before : Blank p.before
  after : Blank p.after

/-- All characters, those around the text included. -/
def chars (p : Padded) : List Char := p.before ++ (p.text ++ p.after)

end Padded

/-- A member of an object as it stands in a text. The name is what stands between its quotes. -/
structure Entry where
  name : Padded
  value : Padded

/-- All characters of a member. -/
def Entry.chars (e : Entry) : List Char :=
  e.name.before ++ '"' :: (e.name.text ++ '"' :: (e.name.after ++ ':' :: e.value.chars))

/-- Parts with a comma before each. -/
def commaBefore {α : Type} (chars : α → List Char) (parts : List α) : List Char :=
  parts.flatMap fun p => ',' :: chars p

/-- What stands between two brackets: parts with commas between them, or blanks alone. -/
inductive Inside {α : Type} (chars : α → List Char) : List α → List Char → Prop
  | nothing {t : List Char} (blank : Blank t) : Inside chars [] t
  | parts (first : α) (rest : List α) :
      Inside chars (first :: rest) (chars first ++ commaBefore chars rest)

/-! ## Strings -/

/-- The character stands for itself in a string. -/
def Plain (c : Char) : Prop := c ≠ '"' ∧ c ≠ '\\' ∧ 0x20 ≤ c.toNat

instance : DecidablePred Plain := fun c =>
  inferInstanceAs (Decidable (c ≠ '"' ∧ c ≠ '\\' ∧ 0x20 ≤ c.toNat))

/-- Four hexadecimal digits and their number. -/
inductive Code : List Char → Nat → Prop
  | mk {a b c d : Char} {h i j k : Nat} (first : hexValue? a = some h)
      (second : hexValue? b = some i) (third : hexValue? c = some j)
      (fourth : hexValue? d = some k) : Code [a, b, c, d] (((h * 16 + i) * 16 + j) * 16 + k)

/-- What may stand between the quotes of a string. -/
inductive Body : List Char → Prop
  | nil : Body []
  | plain {c : Char} {t : List Char} (plain : Plain c) (rest : Body t) : Body (c :: t)
  | short {letter c : Char} {t : List Char} (short : shortEscape? letter = some c)
      (rest : Body t) : Body ('\\' :: letter :: t)
  | code {digits t : List Char} {n : Nat} (code : Code digits n) (rest : Body t) :
      Body ('\\' :: 'u' :: (digits ++ t))

/-- What stands between the quotes spells the characters of a string. A code is that of the
character, unless it belongs to a surrogate pair. -/
inductive Spells : List Char → List Char → Prop
  | nil : Spells [] []
  | plain {c : Char} {t s : List Char} (plain : Plain c) (rest : Spells t s) :
      Spells (c :: t) (c :: s)
  | short {letter c : Char} {t s : List Char} (short : shortEscape? letter = some c)
      (rest : Spells t s) : Spells ('\\' :: letter :: t) (c :: s)
  | code {digits t s : List Char} {n : Nat} (code : Code digits n)
      (notHigh : isHighSurrogate n = false) (notLow : isLowSurrogate n = false)
      (rest : Spells t s) : Spells ('\\' :: 'u' :: (digits ++ t)) (Char.ofNat n :: s)
  | pair {high low t s : List Char} {m n : Nat} (first : Code high m)
      (isHigh : isHighSurrogate m) (second : Code low n) (isLow : isLowSurrogate n)
      (rest : Spells t s) :
      Spells ('\\' :: 'u' :: (high ++ '\\' :: 'u' :: (low ++ t)))
        (Char.ofNat (0x10000 + (m - 0xD800) * 0x400 + (n - 0xDC00)) :: s)

/-- What needs no escapes spells itself. -/
theorem spells_of_plain {t : List Char} (plain : t.all (Plain ·)) : Spells t t := by
  induction t with
  | nil => exact .nil
  | cons c t ih =>
    rw [List.all_cons, Bool.and_eq_true, decide_eq_true_iff] at plain
    exact .plain plain.1 (ih plain.2)

/-- What spells a string may stand between quotes. -/
theorem Spells.body {t s : List Char} (spells : Spells t s) : Body t := by
  induction spells with
  | nil => exact .nil
  | plain plain _ ih => exact .plain plain ih
  | short short _ ih => exact .short short ih
  | code code _ _ _ ih => exact .code code ih
  | pair first _ second _ _ ih => exact .code first (.code second ih)

/-- The text is a string, quotes included, that spells this one. -/
def Spelled (t : List Char) (s : String) : Prop :=
  ∃ body, t = '"' :: (body ++ ['"']) ∧ Spells body s.toList

theorem spelled_quoted (body : List Char) (s : String) :
    Spelled ('"' :: (body ++ ['"'])) s ↔ Spells body s.toList := by
  simp [Spelled]

/-- Whatever escapes it is written with, this is the name of the member. -/
def Entry.Called (e : Entry) (name : String) : Prop := Spells e.name.text name.toList

/-- Between the quotes of the name stands what may stand there, and blanks wherever they may. -/
structure Entry.Named (e : Entry) : Prop where
  body : Body e.name.text
  clearName : e.name.Clear
  clear : e.value.Clear

/-! ## Numerals -/

/-- One or more decimal digits. -/
structure Digits (t : List Char) : Prop where
  some_ : t ≠ []
  all : Decimal.AllDigits t

/-- The digits before the point, without a needless zero in front. -/
inductive Whole : List Char → Prop
  | zero : Whole ['0']
  | other {c : Char} {t : List Char} (digits : Digits (c :: t)) (notZero : c ≠ '0') : Whole (c :: t)

/-- A point and digits, or nothing. -/
inductive Fraction : List Char → Prop
  | none : Fraction []
  | some {t : List Char} (digits : Digits t) : Fraction ('.' :: t)

/-- An exponent with or without a sign, or nothing. -/
inductive Exponent : List Char → Prop
  | none : Exponent []
  | some {mark : Char} {sign t : List Char} (isMark : isExponentMark mark)
      (isSign : sign = [] ∨ sign = ['+'] ∨ sign = ['-']) (digits : Digits t) :
      Exponent (mark :: (sign ++ t))

/-- The text is a number. -/
inductive Numeral : List Char → Prop
  | mk {sign w f e : List Char} (isSign : sign = [] ∨ sign = ['-']) (whole : Whole w)
      (fraction : Fraction f) (exponent : Exponent e) : Numeral (sign ++ (w ++ (f ++ e)))

/-! ## Values -/

/-- The three words. -/
def words : List (List Char) := ["null".toList, "true".toList, "false".toList]

/-- The text is a value with at most so many brackets open at once. -/
inductive Text : Nat → List Char → Prop
  | word {d : Nat} {t : List Char} (isWord : t ∈ words) : Text d t
  | numeral {d : Nat} {t : List Char} (numeral : Numeral t) : Text d t
  | string {d : Nat} {t : List Char} (body : Body t) : Text d ('"' :: (t ++ ['"']))
  | array {d : Nat} {parts : List Padded} {inside : List Char}
      (isInside : Inside Padded.chars parts inside) (clear : ∀ p ∈ parts, p.Clear)
      (texts : ∀ p ∈ parts, Text d p.text) : Text (d + 1) ('[' :: (inside ++ [']']))
  | object {d : Nat} {entries : List Entry} {inside : List Char}
      (isInside : Inside Entry.chars entries inside) (named : ∀ e ∈ entries, e.Named)
      (texts : ∀ e ∈ entries, Text d e.value.text) : Text (d + 1) ('\x7b' :: (inside ++ ['\x7d']))

/-- The text is an object of these members, with blanks around it. -/
inductive ObjectText (entries : List Entry) : List Char → Prop
  | mk {before inside after : List Char} (blankBefore : Blank before)
      (isInside : Inside Entry.chars entries inside) (named : ∀ e ∈ entries, e.Named)
      (texts : ∀ e ∈ entries, ∃ d, Text d e.value.text) (blankAfter : Blank after) :
      ObjectText entries (before ++ '\x7b' :: (inside ++ '\x7d' :: after))

end Rendezvous.Json
