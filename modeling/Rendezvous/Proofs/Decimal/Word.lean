import Rendezvous.Decimal.Word

/-!
# The texts of words

Which texts write a word, and which word, is said without a reader: the digits behind the sign,
if there is one, and the number that they stand for. The reader gives this number exactly if it is
small enough (`word_eq_ok_iff`), however many digits there are. Otherwise it says what is
wrong first, from the left (`word_eq_error_iff`).
-/

namespace Rendezvous.Decimal

/-- Decimal digits, any number of them. -/
def AllDigits (cs : List Char) : Prop := ∀ c ∈ cs, c.isDigit

/-- The number that decimal digits stand for. -/
def worth (digits : List Char) : Nat := Nat.ofDigitChars 10 digits 0

/-- What stands behind the sign, if there is a sign. -/
def unsigned : List Char → List Char
  | '+' :: rest => rest
  | text => text

/-- The text writes the number: one or more decimal digits, behind at most one `+`. -/
structure Writes (text : List Char) (n : Nat) : Prop where
  some_ : unsigned text ≠ []
  digits : AllDigits (unsigned text)
  worth : worth (unsigned text) = n

/-- What keeps a text from writing a word, where it is read from the left. -/
inductive Flawed : List Char → WordError → Prop
  | empty : Flawed [] .empty
  | bareSign : Flawed ['+'] .badDigit
  | badDigit {text read rest : List Char} {c : Char} (split : unsigned text = read ++ c :: rest)
      (digits : AllDigits read) (fits : worth read ≤ wordMax) (bad : c.isDigit = false) :
      Flawed text .badDigit
  | tooLarge {text read rest : List Char} (split : unsigned text = read ++ rest)
      (digits : AllDigits read) (large : wordMax < worth read) : Flawed text .tooLarge

@[simp] theorem allDigits_nil : AllDigits [] := by simp [AllDigits]

@[simp] theorem allDigits_cons {c : Char} {cs : List Char} :
    AllDigits (c :: cs) ↔ c.isDigit ∧ AllDigits cs := by
  simp [AllDigits]

/-- More digits make no smaller number. -/
theorem le_ofDigitChars (digits : List Char) (v : Nat) : v ≤ Nat.ofDigitChars 10 digits v := by
  induction digits generalizing v with
  | nil => simp
  | cons c rest ih =>
    rw [Nat.ofDigitChars_cons]
    calc v ≤ 10 * v + (c.toNat - '0'.toNat) := by omega
      _ ≤ _ := ih _

/-! ## Digit by digit -/

/-- One step: a digit that keeps the number within bounds is taken, and nothing else is. -/
theorem wordFrom_cons (v : Nat) (c : Char) (rest : List Char) :
    wordFrom v (c :: rest) =
      if c.isDigit then
        if 10 * v + (c.toNat - '0'.toNat) ≤ wordMax then
          wordFrom (10 * v + (c.toNat - '0'.toNat)) rest
        else .error .tooLarge
      else .error .badDigit := by
  rw [wordFrom, digitValue?, Nat.mul_comm v 10]
  cases c.isDigit <;> rfl

variable {v n : Nat} {cs : List Char}

/-- What is read from here on is a word exactly if only digits are left and the number that they
come to fits. -/
theorem wordFrom_eq_ok_iff (fits : v ≤ wordMax) :
    wordFrom v cs = .ok n ↔ AllDigits cs ∧ Nat.ofDigitChars 10 cs v = n ∧ n ≤ wordMax := by
  induction cs generalizing v with
  | nil =>
    simp only [wordFrom, Except.ok.injEq, allDigits_nil, Nat.ofDigitChars_nil, true_and]
    exact ⟨fun same => ⟨same, same ▸ fits⟩, And.left⟩
  | cons c rest ih =>
    rw [wordFrom_cons, allDigits_cons, Nat.ofDigitChars_cons]
    split
    next digit =>
      split
      next small => rw [ih small, and_iff_right digit]
      next large =>
        have grows := le_ofDigitChars rest (10 * v + (c.toNat - '0'.toNat))
        simp only [reduceCtorEq, false_iff]
        rintro ⟨-, rfl, small⟩
        exact large (Nat.le_trans grows small)
    next bad => simp [bad]

/-- A bad digit is reported where everything in front of it still is a word. -/
theorem wordFrom_eq_badDigit_iff (fits : v ≤ wordMax) :
    wordFrom v cs = .error .badDigit ↔ ∃ read c rest, cs = read ++ c :: rest ∧ AllDigits read ∧
      Nat.ofDigitChars 10 read v ≤ wordMax ∧ c.isDigit = false := by
  induction cs generalizing v with
  | nil => simp [wordFrom]
  | cons x xs ih =>
    rw [wordFrom_cons]
    constructor
    · intro stopped
      split at stopped
      next digit =>
        split at stopped
        next small =>
          obtain ⟨read, c, rest, rfl, digits, fits, bad⟩ := (ih small).mp stopped
          exact ⟨x :: read, c, rest, rfl, allDigits_cons.mpr ⟨digit, digits⟩, fits, bad⟩
        · cases stopped
      next bad => exact ⟨[], x, xs, rfl, allDigits_nil, fits, by simpa using bad⟩
    · rintro ⟨read, c, rest, split, digits, small, bad⟩
      cases read with
      | nil =>
        cases split
        simp [bad]
      | cons d read =>
        -- More digits make no smaller number, so none before the bad one was too much.
        cases split
        obtain ⟨digit, digits⟩ := allDigits_cons.mp digits
        rw [Nat.ofDigitChars_cons] at small
        have step := Nat.le_trans (le_ofDigitChars read _) small
        rw [if_pos digit, if_pos step, ih step]
        exact ⟨read, c, rest, rfl, digits, small, bad⟩

/-- A number is too large where digits at the front are, whatever stands behind them. -/
theorem wordFrom_eq_tooLarge_iff (fits : v ≤ wordMax) :
    wordFrom v cs = .error .tooLarge ↔ ∃ read rest, cs = read ++ rest ∧ AllDigits read ∧
      wordMax < Nat.ofDigitChars 10 read v := by
  induction cs generalizing v with
  | nil => simp [wordFrom, fits]
  | cons x xs ih =>
    rw [wordFrom_cons]
    constructor
    · intro stopped
      split at stopped
      next digit =>
        split at stopped
        next small =>
          obtain ⟨read, rest, rfl, digits, large⟩ := (ih small).mp stopped
          exact ⟨x :: read, rest, rfl, allDigits_cons.mpr ⟨digit, digits⟩, large⟩
        next large =>
          -- The number has outgrown a word with this digit, and no other is looked at.
          exact ⟨[x], xs, rfl, allDigits_cons.mpr ⟨digit, allDigits_nil⟩, Nat.lt_of_not_le large⟩
      · cases stopped
    · rintro ⟨read, rest, split, digits, large⟩
      cases read with
      | nil => exact absurd fits (Nat.not_le.mpr large)
      | cons d read =>
        cases split
        obtain ⟨digit, digits⟩ := allDigits_cons.mp digits
        rw [if_pos digit]
        split
        next small => exact (ih small).mpr ⟨read, rest, rfl, digits, large⟩
        · rfl

/-- Behind the first digit a text is never refused for being empty. -/
theorem wordFrom_ne_empty (v : Nat) (cs : List Char) : wordFrom v cs ≠ .error .empty := by
  induction cs generalizing v with
  | nil => simp [wordFrom]
  | cons c rest ih =>
    rw [wordFrom_cons]
    split
    · split
      · exact ih _
      · simp
    · simp

/-! ## Whole texts -/

theorem wordOfChars_of_unsigned {text : List Char} (h : unsigned text ≠ []) :
    wordOfChars text = wordFrom 0 (unsigned text) := by
  unfold wordOfChars unsigned at *
  split <;> simp_all

/-- There is nothing behind the sign of two texts only. -/
theorem unsigned_eq_nil_iff {text : List Char} : unsigned text = [] ↔ text = [] ∨ text = ['+'] := by
  unfold unsigned
  split <;> simp_all

/-- A text is read as a word exactly if it writes a number that is one. -/
theorem wordOfChars_eq_ok_iff {text : List Char} :
    wordOfChars text = .ok n ↔ Writes text n ∧ n ≤ wordMax := by
  by_cases nothing : unsigned text = []
  · have none_ : ¬ Writes text n := fun h => h.some_ nothing
    obtain rfl | rfl := unsigned_eq_nil_iff.mp nothing <;> simp [wordOfChars, none_]
  · rw [wordOfChars_of_unsigned nothing, wordFrom_eq_ok_iff (Nat.zero_le _)]
    constructor
    · rintro ⟨digits, value, fits⟩
      exact ⟨⟨nothing, digits, value⟩, fits⟩
    · rintro ⟨h, fits⟩
      exact ⟨h.digits, h.worth, fits⟩

/-- Without digits nothing else can be wrong. -/
theorem flawed_iff_of_nothing {text : List Char} {e : WordError} (nothing : unsigned text = []) :
    Flawed text e ↔ text = [] ∧ e = .empty ∨ text = ['+'] ∧ e = .badDigit := by
  constructor
  · rintro (_ | _ | ⟨split, _, _, _⟩ | ⟨split, _, large⟩)
    · exact .inl ⟨rfl, rfl⟩
    · exact .inr ⟨rfl, rfl⟩
    · simp [nothing] at split
    · have none_ := (List.append_eq_nil_iff.mp (split.symm.trans nothing)).1
      simp [none_, worth] at large
  · rintro (⟨rfl, rfl⟩ | ⟨rfl, rfl⟩)
    · exact .empty
    · exact .bareSign

/-- What is reported is what is wrong. -/
theorem wordOfChars_eq_error_iff {text : List Char} {e : WordError} :
    wordOfChars text = .error e ↔ Flawed text e := by
  -- A text without a digit is empty or a mere sign; any other is read digit by digit.
  by_cases nothing : unsigned text = []
  · rw [flawed_iff_of_nothing nothing]
    obtain rfl | rfl := unsigned_eq_nil_iff.mp nothing <;> simp [wordOfChars, eq_comm]
  · rw [wordOfChars_of_unsigned nothing]
    cases e with
    | empty =>
      simp only [wordFrom_ne_empty, false_iff]
      rintro ⟨⟩
      exact nothing rfl
    | badDigit =>
      rw [wordFrom_eq_badDigit_iff (Nat.zero_le _)]
      constructor
      · rintro ⟨read, c, rest, split, digits, fits, bad⟩
        exact .badDigit split digits fits bad
      · rintro (_ | _ | ⟨split, digits, fits, bad⟩)
        · exact absurd rfl nothing
        · exact ⟨_, _, _, split, digits, fits, bad⟩
    | tooLarge =>
      rw [wordFrom_eq_tooLarge_iff (Nat.zero_le _)]
      constructor
      · rintro ⟨read, rest, split, digits, large⟩
        exact .tooLarge split digits large
      · rintro (_ | _ | _ | ⟨split, digits, large⟩)
        exact ⟨_, _, split, digits, large⟩

example : Flawed "18446744073709551616x".toList .tooLarge :=
  wordOfChars_eq_error_iff.mp rfl

end Rendezvous.Decimal
