import Mathlib.Data.List.Forall2
import Mathlib.Data.List.TakeWhile
import Mathlib.Data.Nat.Digits.Defs
import Rendezvous.Address

/-!
# The texts of socket addresses

The grammar of the texts that are socket addresses stands here by itself (`Spells`): numerals
first, then octets and groups of them, then addresses. It is a relation, for one address has many
texts. The scanners read from the left and never go back behind a number that they have
read, and still the texts they accept are those of the grammar (`ofText?_eq_some_iff`). What can
follow a part never belongs to it, so the longest part in front is the only one there is.
-/

namespace Rendezvous.Address

/-! ## The grammar -/

/-- The character is a digit of a base of at most sixteen, its letters small or large. -/
def IsDigit (base : Nat) (c : Char) (d : Nat) : Prop :=
  d < base ∧ (c = d.digitChar ∨ c = d.digitChar.toUpper)

/-- The text is a number in a base, with one digit at least and any number of zeros in front. -/
def Numeral (base : Nat) (text : List Char) (n : Nat) : Prop :=
  ∃ digits, digits ≠ [] ∧ List.Forall₂ (IsDigit base) text digits ∧
    n = Nat.ofDigits base digits.reverse

/-- An octet has at most three digits and no needless zero in front. -/
structure Octet (text : List Char) (n : Nat) : Prop where
  numeral : Numeral 10 text n
  short : text.length ≤ 3
  small : n < 256
  lean : text.head? = some '0' → text.length = 1

/-- Four octets with points between them. -/
inductive Octets : List Char → Nat → Nat → Nat → Nat → Prop
  | mk {t u v w : List Char} {a b c d : Nat} (first : Octet t a) (second : Octet u b)
      (third : Octet v c) (fourth : Octet w d) :
      Octets (t ++ '.' :: (u ++ '.' :: (v ++ '.' :: w))) a b c d

/-- A group has at most four hexadecimal digits. -/
structure Group (text : List Char) (n : Nat) : Prop where
  numeral : Numeral 16 text n
  short : text.length ≤ 4

/-- Groups with colons between them. The flag says that the last two are written as octets. -/
inductive Groups : Bool → List Char → List Nat → Prop
  | one {t : List Char} {g : Nat} (group : Group t g) : Groups false t [g]
  | octets {t : List Char} {a b c d : Nat} (octets : Octets t a b c d) :
      Groups true t [a * 256 + b, c * 256 + d]
  | more {asOctets : Bool} {t u : List Char} {g : Nat} {gs : List Nat} (group : Group t g)
      (rest : Groups asOctets u gs) : Groups asOctets (t ++ ':' :: u) (g :: gs)

/-- Groups, or no text at all. -/
inductive SomeGroups : Bool → List Char → List Nat → Prop
  | none : SomeGroups false [] []
  | some {asOctets : Bool} {t : List Char} {gs : List Nat} (groups : Groups asOctets t gs) :
      SomeGroups asOctets t gs

/-- Eight groups. Two colons in a row, once, stand for one zero group or more. -/
inductive EightGroups : List Char → List Nat → Prop
  | full {asOctets : Bool} {t : List Char} {gs : List Nat} (groups : Groups asOctets t gs)
      (eight : gs.length = 8) : EightGroups t gs
  | gap {asOctets : Bool} {t u : List Char} {gs hs : List Nat} (left : SomeGroups false t gs)
      (right : SomeGroups asOctets u hs) (missing : gs.length + hs.length ≤ 7) :
      EightGroups (t ++ ':' :: ':' :: u)
        (gs ++ List.replicate (8 - gs.length - hs.length) 0 ++ hs)

/-- The number of an interface behind a percent sign, or no text at all. -/
inductive Scope : List Char → Nat → Prop
  | none : Scope [] 0
  | some {t : List Char} {n : Nat} (numeral : Numeral 10 t n) (small : n < 2 ^ 32) :
      Scope ('%' :: t) n

/-- A port has sixteen bits. -/
structure Port (text : List Char) (n : Nat) : Prop where
  numeral : Numeral 10 text n
  small : n < 2 ^ 16

/-- The text is one of the texts of an address. -/
inductive Spells : List Char → Address → Prop
  | short {t p : List Char} {a b c d n : Nat} (octets : Octets t a b c d) (port : Port p n) :
      Spells (t ++ ':' :: p) ⟨.short a b c d, n⟩
  | long {t u p : List Char} {gs : List Nat} {s n : Nat} (groups : EightGroups t gs)
      (scope : Scope u s) (port : Port p n) :
      Spells ('[' :: (t ++ (u ++ ']' :: ':' :: p))) ⟨.long gs s, n⟩

/-! ## Numbers -/

variable {base : Nat} {cs text rest : List Char} {n : Nat}

/-- Digits are characters below the code of `g`. -/
theorem toNat_lt_of_digit {c : Char} {d : Nat} (h : digitOf? base c = some d) :
    c.toNat < 'g'.toNat := by
  obtain ⟨value, -⟩ := Option.filter_eq_some_iff.mp h
  have upTo {last : Char} (le : c ≤ last) (small : last.toNat < 'g'.toNat) :
      c.toNat < 'g'.toNat := Nat.lt_of_le_of_lt le small
  split at value
  next digit => exact upTo (Char.isDigit_iff_toNat.mp digit).2 (by decide)
  · split at value
    next letter =>
      exact upTo (of_decide_eq_true (Bool.and_eq_true_iff.mp letter).2) (by decide)
    · split at value
      next letter =>
        exact upTo (of_decide_eq_true (Bool.and_eq_true_iff.mp letter).2) (by decide)
      · cases value

/-- The scanner knows the digits of a base, small or large, and nothing else. Both sides are
checked on all characters below `g`. -/
theorem digitOf?_eq_some_iff (small : base ≤ 16) {c : Char} {d : Nat} :
    digitOf? base c = some d ↔ IsDigit base c d := by
  have writes : ∀ b ≤ 16, ∀ d < b,
      digitOf? b d.digitChar = some d ∧ digitOf? b d.digitChar.toUpper = some d := by decide
  have reads : ∀ n < 'g'.toNat, ∀ d < 16, digitOf? 16 (Char.ofNat n) = some d →
      Char.ofNat n = d.digitChar ∨ Char.ofNat n = d.digitChar.toUpper := by decide +kernel
  constructor
  · intro found
    obtain ⟨value, below⟩ := Option.filter_eq_some_iff.mp found
    have below : d < base := by simpa using below
    have hex : digitOf? 16 c = some d :=
      Option.filter_eq_some_iff.mpr ⟨value, by simpa using Nat.lt_of_lt_of_le below small⟩
    have read := reads c.toNat (toNat_lt_of_digit hex) d (Nat.lt_of_lt_of_le below small)
    rw [Char.ofNat_toNat] at read
    exact ⟨below, read hex⟩
  · rintro ⟨below, rfl | rfl⟩
    · exact (writes base small d below).1
    · exact (writes base small d below).2
/-- What stands behind a number does not go on with it. -/
def Ends (base : Nat) (rest : List Char) : Prop := ∀ c ∈ rest.head?, digitOf? base c = none

/-- The value of digits, from the left. -/
abbrev valueOf (base : Nat) (text : List Char) : Nat :=
  text.foldl (fun v c => v * base + (digitOf? base c).getD 0) 0

/-- Adding up from the left gives the number that the digits stand for. -/
theorem valueOf_eq (small : base ≤ 16) {digits : List Nat}
    (h : List.Forall₂ (IsDigit base) text digits) :
    valueOf base text = Nat.ofDigits base digits.reverse := by
  have fromLeft (v : Nat) : text.foldl (fun v c => v * base + (digitOf? base c).getD 0) v =
      digits.foldl (fun v d => d + base * v) v := by
    induction h generalizing v with
    | nil => rfl
    | cons digit _ ih =>
      rw [List.foldl_cons, List.foldl_cons, ih, (digitOf?_eq_some_iff small).mpr digit]
      simp only [Option.getD_some, Nat.mul_comm, Nat.add_comm]
  rw [Nat.ofDigits_eq_foldr, List.foldr_reverse]
  exact fromLeft 0

/-- A numeral is its digits, all of them. -/
theorem numeral_iff (small : base ≤ 16) :
    Numeral base text n ↔
      text ≠ [] ∧ (∀ c ∈ text, (digitOf? base c).isSome) ∧ valueOf base text = n := by
  constructor
  · rintro ⟨digits, some_, all, rfl⟩
    refine ⟨?_, ?_, valueOf_eq small all⟩
    · rintro rfl
      exact some_ (List.forall₂_nil_left_iff.mp all)
    · clear some_
      induction all with
      | nil => simp
      | cons digit _ ih =>
        have head := (digitOf?_eq_some_iff small).mpr digit
        simpa [head] using ih
  · rintro ⟨some_, all, value⟩
    have digits : List.Forall₂ (IsDigit base) text
        (text.map fun c => (digitOf? base c).getD 0) := by
      rw [List.forall₂_map_right_iff, List.forall₂_same]
      intro c member
      obtain ⟨d, found⟩ := Option.isSome_iff_exists.mp (all c member)
      rw [found]
      exact (digitOf?_eq_some_iff small).mp found
    exact ⟨_, by simpa using some_, digits, value ▸ valueOf_eq small digits⟩

/-- A longest run stops where what follows does not go on with it. -/
theorem takeWhile_of_ends {p : Char → Bool} (all : ∀ c ∈ text, p c)
    (ends : ∀ c ∈ rest.head?, p c = false) : (text ++ rest).takeWhile p = text := by
  rw [List.takeWhile_append_of_pos all]
  cases rest with
  | nil => simp
  | cons c rest => simp [ends c rfl]

theorem drop_length_takeWhile (p : Char → Bool) (cs : List Char) :
    cs.drop (cs.takeWhile p).length = cs.dropWhile p := by
  induction cs with
  | nil => rfl
  | cons c cs ih => cases first : p c <;> simp [first, ih]

/-- A text is split in one way only into digits and what does not go on with them. -/
theorem split_unique {p : Char → Bool} {text' rest' : List Char} (all : ∀ c ∈ text, p c)
    (ends : ∀ c ∈ rest.head?, p c = false) (all' : ∀ c ∈ text', p c)
    (ends' : ∀ c ∈ rest'.head?, p c = false) (same : text ++ rest = text' ++ rest') :
    text = text' ∧ rest = rest' := by
  have texts : text = text' := by
    rw [← takeWhile_of_ends all ends, same, takeWhile_of_ends all' ends']
  subst texts
  exact ⟨rfl, List.append_cancel_left same⟩

/-- A number is the longest numeral in front, if that is short and small enough. -/
theorem number_eq_some_iff (small : base ≤ 16) {most bound : Nat} :
    number base most bound cs = some (n, rest) ↔ ∃ text, cs = text ++ rest ∧
      Numeral base text n ∧ text.length ≤ most ∧ n < bound ∧ Ends base rest := by
  let p : Char → Bool := fun c => (digitOf? base c).isSome
  constructor
  · intro read
    simp only [number] at read
    split at read
    · cases read
    next fine =>
      simp only [Bool.or_eq_true, List.isEmpty_iff, decide_eq_true_eq, not_or, not_lt,
        not_le] at fine
      -- What was taken is the longest run of digits, so what is left begins with none.
      obtain ⟨⟨some_, short⟩, below⟩ := fine
      obtain ⟨rfl, rfl⟩ := Prod.mk.inj (Option.some.inj read)
      refine ⟨cs.takeWhile p, ?_,
        (numeral_iff small).mpr ⟨some_, fun c => List.mem_takeWhile_imp, rfl⟩, short, below, ?_⟩
      · rw [drop_length_takeWhile, List.takeWhile_append_dropWhile]
      · rw [drop_length_takeWhile]
        intro c first
        have stops := List.head?_dropWhile_not p cs
        rw [first] at stops
        simpa [p] using stops
  · rintro ⟨text, rfl, numeral, short, below, ends⟩
    obtain ⟨some_, all, rfl⟩ := (numeral_iff small).mp numeral
    have stops : ∀ c ∈ rest.head?, (digitOf? base c).isSome = false := by
      intro c first
      rw [ends c first]
      rfl
    simp only [number, takeWhile_of_ends all stops]
    rw [if_neg (by simp [some_, short, below]), List.drop_left]

/-! ## Octets -/

theorem mark_eq_some_iff {want : Char} : mark want cs = some rest ↔ cs = want :: rest := by
  cases cs with
  | nil => simp [mark]
  | cons c cs =>
    by_cases same : c = want <;> simp [mark, same]

@[simp] theorem mark_self (c : Char) (rest : List Char) : mark c (c :: rest) = some rest :=
  mark_eq_some_iff.mpr rfl

/-- An octet is taken exactly if it is the longest run of digits in front. -/
theorem octet_eq_some_iff :
    octet cs = some (n, rest) ↔ ∃ text, cs = text ++ rest ∧ Octet text n ∧ Ends 10 rest := by
  -- The scanner asks about a zero in front by what is left, the grammar by the length.
  have shape : octet cs = some (n, rest) ↔ number 10 3 256 cs = some (n, rest) ∧
      (cs.head? = some '0' → cs.length = rest.length + 1) := by
    unfold octet
    split
    next m rest' tail found =>
      rw [found]
      split
      next one =>
        simp only [Option.some.injEq, Prod.mk.injEq, List.head?_cons, forall_const]
        constructor
        · rintro ⟨rfl, rfl⟩
          exact ⟨⟨rfl, rfl⟩, one⟩
        · exact And.left
      next more =>
        simp only [reduceCtorEq, Option.some.injEq, Prod.mk.injEq, false_iff, List.head?_cons,
          forall_const]
        rintro ⟨⟨rfl, rfl⟩, one⟩
        exact more one
    next noZero =>
      refine ⟨fun found => ⟨found, fun zero => ?_⟩, And.left⟩
      obtain ⟨tail, rfl⟩ := List.head?_eq_some_iff.mp zero
      exact absurd rfl (noZero n rest tail found)
  rw [shape, number_eq_some_iff (by decide)]
  constructor
  · rintro ⟨⟨text, rfl, numeral, short, small, ends⟩, lean⟩
    refine ⟨text, rfl, ⟨numeral, short, small, ?_⟩, ends⟩
    intro zero
    have one := lean (by rw [List.head?_append, zero, Option.some_or])
    simpa [Nat.add_comm] using one
  · rintro ⟨text, rfl, octet, ends⟩
    refine ⟨⟨text, rfl, octet.numeral, octet.short, octet.small, ends⟩, ?_⟩
    intro zero
    have some_ := ((numeral_iff (by decide)).mp octet.numeral).1
    rw [List.head?_append_of_ne_nil _ some_] at zero
    rw [List.length_append, octet.lean zero, Nat.add_comm]

theorem ends_cons {c : Char} : Ends base (c :: rest) ↔ digitOf? base c = none := by
  simp [Ends]

/-- So are four of them, with points between. -/
theorem octets_eq_some_iff {a b c d : Nat} : octets cs = some ((a, b, c, d), rest) ↔
    ∃ text, cs = text ++ rest ∧ Octets text a b c d ∧ Ends 10 rest := by
  have point (rest : List Char) : Ends 10 ('.' :: rest) := ends_cons.mpr rfl
  simp only [octets, Option.bind_eq_bind, Option.bind_eq_some_iff, Prod.exists, octet_eq_some_iff,
    mark_eq_some_iff]
  constructor
  · rintro ⟨a, _, ⟨t, rfl, first, -⟩, _, rfl, b, _, ⟨u, rfl, second, -⟩, _, rfl, c, _,
      ⟨v, rfl, third, -⟩, _, rfl, d, _, ⟨w, rfl, fourth, ends⟩, made⟩
    cases made
    exact ⟨_, by simp, .mk first second third fourth, ends⟩
  · rintro ⟨_, rfl, ⟨first, second, third, fourth⟩, ends⟩
    exact ⟨_, _, ⟨_, by simp only [List.append_assoc, List.cons_append], first, point _⟩, _, rfl,
      _, _, ⟨_, rfl, second, point _⟩, _, rfl, _, _, ⟨_, rfl, third, point _⟩, _, rfl,
      _, _, ⟨_, rfl, fourth, ends⟩, rfl⟩

/-- A numeral stands in front where a digit does. -/
theorem Numeral.not_ends (small : base ≤ 16) (h : Numeral base text n) :
    ¬ Ends base (text ++ rest) := by
  obtain ⟨some_, all, -⟩ := (numeral_iff small).mp h
  obtain ⟨c, text, rfl⟩ := List.exists_cons_of_ne_nil some_
  intro ends
  have digit := all c List.mem_cons_self
  rw [ends c rfl] at digit
  cases digit

theorem number_eq_none (small : base ≤ 16) {most bound : Nat} (ends : Ends base cs) :
    number base most bound cs = none := by
  rw [Option.eq_none_iff_forall_ne_some]
  rintro ⟨n, rest⟩ read
  obtain ⟨text, rfl, numeral, -⟩ := (number_eq_some_iff small).mp read
  exact numeral.not_ends small ends

theorem octets_eq_none (ends : Ends 10 cs) : octets cs = none := by
  rw [Option.eq_none_iff_forall_ne_some]
  rintro ⟨⟨a, b, c, d⟩, rest⟩ read
  obtain ⟨_, rfl, ⟨first, -, -, -⟩, -⟩ := octets_eq_some_iff.mp read
  rw [List.append_assoc] at ends
  exact first.numeral.not_ends (by decide) ends

/-! ## Groups -/

/-- Four hexadecimal digits have sixteen bits. -/
theorem Group.small {g : Nat} (h : Group text g) : g < 65536 := by
  obtain ⟨⟨digits, -, all, rfl⟩, short⟩ := h
  have below : ∀ d ∈ digits.reverse, d < 16 := by
    simp only [List.mem_reverse]
    clear short
    induction all with
    | nil => simp
    | cons digit _ ih => exact List.forall_mem_cons.mpr ⟨digit.1, ih⟩
  calc Nat.ofDigits 16 digits.reverse < 16 ^ digits.reverse.length :=
        Nat.ofDigits_lt_base_pow_length (by decide) below
    _ ≤ 16 ^ 4 := by
        rw [List.length_reverse, ← all.length_eq]
        exact Nat.pow_le_pow_right (by decide) short

/-- A group needs no bound of its own, for four digits are small enough. -/
theorem group_eq_some_iff {g : Nat} : number 16 4 65536 cs = some (g, rest) ↔
    ∃ text, cs = text ++ rest ∧ Group text g ∧ Ends 16 rest := by
  rw [number_eq_some_iff (by decide)]
  constructor
  · rintro ⟨text, rfl, numeral, short, -, ends⟩
    exact ⟨text, rfl, ⟨numeral, short⟩, ends⟩
  · rintro ⟨text, rfl, group, ends⟩
    exact ⟨text, rfl, group.numeral, group.short, group.small, ends⟩

/-- Groups are read off the front, no more than there may be. -/
theorem groups_sound {most : Nat} {first asOctets : Bool} {gs : List Nat}
    (read : groups most first cs = (gs, asOctets, rest)) : gs.length ≤ most ∧
      (gs = [] ∧ asOctets = false ∧ cs = rest ∨
        ∃ text, cs = (if first then text else ':' :: text) ++ rest ∧ Groups asOctets text gs) := by
  -- The loop counts down the groups that may still come. Only its first round needs no colon.
  induction most generalizing first cs gs with
  | zero =>
    cases read
    exact ⟨Nat.le_refl _, .inl ⟨rfl, rfl, rfl⟩⟩
  | succ left ih =>
    unfold groups at read
    split at read
    · cases read
      exact ⟨Nat.zero_le _, .inl ⟨rfl, rfl, rfl⟩⟩
    next body entered =>
      have entry : cs = if first then body else ':' :: body := by
        cases first with
        | true => exact Option.some.inj entered
        | false => exact mark_eq_some_iff.mp entered
      split at read
      next a b c d _ found =>
        cases read
        split at found
        · cases found
        next room =>
          obtain ⟨text, rfl, octets, -⟩ := octets_eq_some_iff.mp found
          refine ⟨by simp; omega, .inr ⟨text, ?_, .octets octets⟩⟩
          rw [entry]
          cases first <;> rfl
      · split at read
        · cases read
          exact ⟨Nat.zero_le _, .inl ⟨rfl, rfl, rfl⟩⟩
        next g rest' found =>
          obtain ⟨text, rfl, group, -⟩ := group_eq_some_iff.mp found
          generalize onward : groups left false rest' = result at read
          obtain ⟨more, flag, behind⟩ := result
          cases read
          obtain ⟨few, going⟩ := ih onward
          have entry : cs = (if first then text else ':' :: text) ++ rest' := by
            rw [entry]
            cases first <;> rfl
          refine ⟨Nat.succ_le_succ few, .inr ?_⟩
          -- This group was the last one, or others follow behind a colon.
          obtain ⟨nothing, plain, atEnd⟩ | ⟨more, follows, groups⟩ := going
          · rw [nothing, plain, entry, atEnd]
            exact ⟨text, rfl, .one group⟩
          · refine ⟨text ++ ':' :: more, ?_, .more group groups⟩
            rw [entry, follows]
            cases first <;> simp

/-- What can stand behind groups: two colons, an interface, or the end of the host. -/
inductive Halts : List Char → Prop
  | gap (rest : List Char) : Halts (':' :: ':' :: rest)
  | scope (rest : List Char) : Halts ('%' :: rest)
  | close (rest : List Char) : Halts (']' :: rest)

theorem Halts.ends (h : Halts rest) (small : base ≤ 16) : Ends base rest := by
  have none_ : ∀ b ≤ 16, digitOf? b ':' = none ∧ digitOf? b '%' = none ∧
      digitOf? b ']' = none := by decide
  cases h with
  | gap rest => exact ends_cons.mpr (none_ base small).1
  | scope rest => exact ends_cons.mpr (none_ base small).2.1
  | close rest => exact ends_cons.mpr (none_ base small).2.2

/-- A group is no start of four octets, unless a point follows. -/
theorem octets_eq_none_of_group {g : Nat} (group : Group text g) (ends : Ends 16 rest)
    (noPoint : rest.head? ≠ some '.') : octets (text ++ rest) = none := by
  rw [Option.eq_none_iff_forall_ne_some]
  rintro ⟨⟨a, b, c, d⟩, behind⟩ read
  obtain ⟨_, split, ⟨first, -, -, -⟩, -⟩ := octets_eq_some_iff.mp read
  rw [List.append_assoc] at split
  have hex : ∀ c, (digitOf? 10 c).isSome → (digitOf? 16 c).isSome := by
    intro c digit
    obtain ⟨d, digit⟩ := Option.isSome_iff_exists.mp digit
    obtain ⟨below, writes⟩ := (digitOf?_eq_some_iff (by decide)).mp digit
    rw [(digitOf?_eq_some_iff (by decide)).mpr ⟨below.trans (by decide), writes⟩]
    rfl
  obtain ⟨-, digits, -⟩ := (numeral_iff (by decide)).mp group.numeral
  obtain ⟨-, decimal, -⟩ := (numeral_iff (by decide)).mp first.numeral
  have stops : ∀ c ∈ rest.head?, (digitOf? 16 c).isSome = false := by
    intro c first
    rw [ends c first]
    rfl
  obtain ⟨-, rfl⟩ := split_unique digits stops (fun c member => hex c (decimal c member))
    (by simp; rfl) split
  exact noPoint rfl

section Entered

variable {left : Nat} {first : Bool} {body : List Char}
    (entered : (if first then some cs else mark ':' cs) = some body)

include entered

/-- One round of the loop that meets octets ends with them, if there is room for two groups. -/
theorem groups_of_octets {a b c d : Nat} (room : left ≠ 0)
    (found : octets body = some ((a, b, c, d), rest)) :
    groups (left + 1) first cs = ([a * 256 + b, c * 256 + d], true, rest) := by
  simp only [groups, entered, found, if_neg room]

/-- A round that meets a group goes on behind it. -/
theorem groups_of_group {g : Nat} (none_ : octets body = none)
    (found : number 16 4 65536 body = some (g, rest)) :
    groups (left + 1) first cs =
      (g :: (groups left false rest).1, (groups left false rest).2) := by
  simp only [groups, entered, none_, ite_self, found]

/-- A round that meets neither takes nothing and ends. -/
theorem groups_of_none (none_ : octets body = none) (nothing : number 16 4 65536 body = none) :
    groups (left + 1) first cs = ([], false, cs) := by
  simp only [groups, entered, none_, ite_self, nothing]

end Entered

/-- Where no groups are, none are read. -/
theorem groups_of_halts (halts : Halts rest) (most : Nat) (first : Bool) :
    groups most first rest = ([], false, rest) := by
  have nothing {body : List Char} (ends : ∀ base ≤ 16, Ends base body) :
      octets body = none ∧ number 16 4 65536 body = none :=
    ⟨octets_eq_none (ends 10 (by decide)), number_eq_none (by decide) (ends 16 (by decide))⟩
  cases most with
  | zero => rfl
  | succ left =>
    cases first with
    | true =>
      obtain ⟨noOctets, noGroup⟩ := nothing fun base small => halts.ends small
      exact groups_of_none rfl noOctets noGroup
    | false =>
      -- Of what can stand there only the gap begins with a colon, and behind that comes another.
      cases halts with
      | gap rest =>
        have colon : ∀ base ≤ 16, Ends base (':' :: rest) := by
          intro base small
          have ends := (Halts.gap rest).ends small
          exact ends_cons.mpr (ends_cons.mp ends)
        obtain ⟨noOctets, noGroup⟩ := nothing colon
        exact groups_of_none (mark_self ':' _) noOctets noGroup
      | scope rest => rfl
      | close rest => rfl

/-- Groups are read to their end. -/
theorem groups_complete {asOctets : Bool} {gs : List Nat} {most : Nat} (first : Bool)
    (h : Groups asOctets text gs) (room : gs.length ≤ most) (halts : Halts rest) :
    groups most first ((if first then text else ':' :: text) ++ rest) =
      (gs, asOctets, rest) := by
  have entered (first : Bool) (text rest : List Char) : (if first
      then some ((if first then text else ':' :: text) ++ rest)
      else mark ':' ((if first then text else ':' :: text) ++ rest)) = some (text ++ rest) := by
    cases first <;> simp
  induction h generalizing first most with
  | @one t g group =>
    obtain ⟨left, rfl⟩ := Nat.exists_eq_add_of_le' room
    -- A group of decimal digits could be the beginning of octets. It is not, for no point
    -- follows.
    have point : rest.head? ≠ some '.' := by cases halts <;> simp
    have read := group_eq_some_iff.mpr ⟨t, rfl, group, halts.ends (by decide)⟩
    rw [List.length_singleton, groups_of_group (entered first t rest)
        (octets_eq_none_of_group group (halts.ends (by decide)) point) read,
      groups_of_halts halts]
  | @octets t a b c d octets =>
    obtain ⟨left, rfl⟩ := Nat.exists_eq_add_of_le' room
    have read := octets_eq_some_iff.mpr ⟨t, rfl, octets, halts.ends (by decide)⟩
    exact groups_of_octets (entered first t rest) (Nat.succ_ne_zero left) read
  | @more asOctets t u g gs group groups ih =>
    obtain ⟨left, rfl⟩ := Nat.exists_eq_add_of_le' room
    have colon : Ends 16 (':' :: (u ++ rest)) := ends_cons.mpr rfl
    have read := group_eq_some_iff.mpr ⟨t, rfl, group, colon⟩
    have behind := ih false (Nat.le_add_left gs.length left)
    simp only [Bool.false_eq_true, if_false, List.cons_append] at behind
    have noOctets := octets_eq_none_of_group group colon (by simp)
    rw [List.length_cons, ← Nat.add_assoc]
    have whole : (if first then t ++ ':' :: u else ':' :: (t ++ ':' :: u)) ++ rest =
        (if first then t else ':' :: t) ++ ':' :: (u ++ rest) := by
      cases first <;> simp
    rw [whole, groups_of_group (entered first t _) noOctets read, behind]

/-- Groups, or none, are read to their end. -/
theorem someGroups_complete {asOctets : Bool} {gs : List Nat} {most : Nat}
    (h : SomeGroups asOctets text gs) (room : gs.length ≤ most) (halts : Halts rest) :
    groups most true (text ++ rest) = (gs, asOctets, rest) := by
  cases h with
  | none => exact groups_of_halts halts most true
  | some groups => exact groups_complete true groups room halts

/-- What the loop takes from its beginning are groups, or it takes nothing. -/
theorem someGroups_sound {most : Nat} {asOctets : Bool} {gs : List Nat}
    (read : groups most true cs = (gs, asOctets, rest)) :
    gs.length ≤ most ∧ ∃ text, cs = text ++ rest ∧ SomeGroups asOctets text gs := by
  obtain ⟨few, ⟨rfl, rfl, rfl⟩ | ⟨text, rfl, groups⟩⟩ := groups_sound read
  · exact ⟨few, [], rfl, .none⟩
  · exact ⟨few, text, rfl, .some groups⟩

/-- What is taken for a long host is one. -/
theorem eightGroups_sound {gs : List Nat} (read : eightGroups cs = some (gs, rest)) :
    ∃ text, cs = text ++ rest ∧ EightGroups text gs := by
  unfold eightGroups at read
  generalize front : groups 8 true cs = result at read
  obtain ⟨head, asOctets, behind⟩ := result
  obtain ⟨few, text, rfl, left⟩ := someGroups_sound front
  simp only at read
  split at read
  next eight =>
    -- Eight groups leave no room for a gap.
    cases read
    cases left with
    | none => simp at eight
    | some groups => exact ⟨text, rfl, .full groups eight⟩
  next notEight =>
    split at read
    · cases read
    next plain =>
      -- Behind fewer of them stands the gap, and the groups on its other side.
      simp only [Option.bind_eq_bind, Option.bind_eq_some_iff, mark_eq_some_iff] at read
      obtain ⟨_, rfl, behind, rfl, read⟩ := read
      generalize back : groups (7 - head.length) true behind = result at read
      obtain ⟨tail, flag, behind⟩ := result
      obtain ⟨room, tailText, rfl, right⟩ := someGroups_sound back
      cases read
      rw [Bool.not_eq_true] at plain
      subst plain
      have fits : head.length + tail.length ≤ 7 := by
        have below : tail.length ≤ 7 - head.length := room
        omega
      exact ⟨_, by simp, .gap left right fits⟩

/-- And each text of a long host is taken whole, whatever may stand behind it. -/
theorem eightGroups_complete {gs : List Nat} (h : EightGroups text gs) (halts : Halts rest) :
    eightGroups (text ++ rest) = some (gs, rest) := by
  cases h with
  | full h eight =>
    have front : groups 8 true (text ++ rest) = _ := groups_complete true h eight.le halts
    simp only [eightGroups, front, if_pos eight]
  | @gap flag t u gs hs left right missing =>
    have front : groups 8 true _ = _ := someGroups_complete left (by omega) (.gap (u ++ rest))
    have back : groups (7 - gs.length) true _ = _ := someGroups_complete right (by omega) halts
    have few : gs.length ≠ 8 := by omega
    simp [eightGroups, front, back, few]

/-! ## Addresses -/

/-- A numeral of any length. -/
theorem number_length_eq_some_iff (small : base ≤ 16) {bound : Nat} :
    number base cs.length bound cs = some (n, rest) ↔
      ∃ text, cs = text ++ rest ∧ Numeral base text n ∧ n < bound ∧ Ends base rest := by
  rw [number_eq_some_iff small]
  constructor
  · rintro ⟨text, rfl, numeral, -, below, ends⟩
    exact ⟨text, rfl, numeral, below, ends⟩
  · rintro ⟨text, rfl, numeral, below, ends⟩
    exact ⟨text, rfl, numeral, by simp, below, ends⟩

/-- What is taken for an interface is one, or no text at all. -/
theorem scanScope_sound {s : Nat} (read : scanScope cs = (s, ']' :: rest)) :
    ∃ text, cs = text ++ ']' :: rest ∧ Scope text s := by
  unfold scanScope at read
  split at read
  next found =>
    cases read
    obtain ⟨_, marked, number⟩ := Option.bind_eq_some_iff.mp found
    rw [mark_eq_some_iff.mp marked]
    obtain ⟨text, rfl, numeral, below, -⟩ := (number_length_eq_some_iff (by decide)).mp number
    exact ⟨'%' :: text, rfl, .some numeral below⟩
  · cases read
    exact ⟨[], rfl, .none⟩

/-- And an interface is taken whole, up to the bracket. -/
theorem scanScope_complete {s : Nat} (h : Scope text s) :
    scanScope (text ++ ']' :: rest) = (s, ']' :: rest) := by
  cases h with
  | none => simp [scanScope, mark]
  | @some t _ numeral below =>
    have stops : Ends 10 (']' :: rest) := ends_cons.mpr rfl
    have read := (number_length_eq_some_iff (by decide)).mpr ⟨t, rfl, numeral, below, stops⟩
    simp only [scanScope, List.cons_append, mark_self, Option.bind_some]
    rw [show (0x100000000 : Nat) = 2 ^ 32 from rfl, read]

/-- A port is taken exactly if a colon and a number of sixteen bits stand in front. -/
theorem scanPort_eq_some_iff : scanPort cs = some (n, rest) ↔
    ∃ text, cs = ':' :: (text ++ rest) ∧ Port text n ∧ Ends 10 rest := by
  simp only [scanPort, Option.bind_eq_bind, Option.bind_eq_some_iff, mark_eq_some_iff,
    number_length_eq_some_iff (show 10 ≤ 16 by decide)]
  constructor
  · rintro ⟨_, rfl, text, rfl, numeral, below, ends⟩
    exact ⟨text, rfl, ⟨numeral, below⟩, ends⟩
  · rintro ⟨text, rfl, port, ends⟩
    exact ⟨_, rfl, text, rfl, port.numeral, port.small, ends⟩

variable {a : Address}

/-- The short form is four octets and a port. -/
theorem short_eq_some_iff : short cs = some (a, rest) ↔ ∃ t p b c d e n,
    cs = t ++ ':' :: (p ++ rest) ∧ Octets t b c d e ∧ Port p n ∧ Ends 10 rest ∧
      a = ⟨.short b c d e, n⟩ := by
  simp only [short, Option.bind_eq_bind, Option.bind_eq_some_iff, Prod.exists, octets_eq_some_iff,
    scanPort_eq_some_iff]
  constructor
  · rintro ⟨b, c, d, e, _, ⟨t, rfl, octets, -⟩, n, _, ⟨p, rfl, port, ends⟩, made⟩
    cases made
    exact ⟨t, p, b, c, d, e, n, rfl, octets, port, ends, rfl⟩
  · rintro ⟨t, p, b, c, d, e, n, rfl, octets, port, ends, rfl⟩
    exact ⟨b, c, d, e, _, ⟨t, rfl, octets, ends_cons.mpr rfl⟩, n, rest, ⟨p, rfl, port, ends⟩, rfl⟩

/-- The long form is eight groups and perhaps an interface in brackets, and a port. -/
theorem long_eq_some_iff : long cs = some (a, rest) ↔ ∃ t u p gs s n,
    cs = '[' :: (t ++ (u ++ ']' :: ':' :: (p ++ rest))) ∧ EightGroups t gs ∧ Scope u s ∧
      Port p n ∧ Ends 10 rest ∧ a = ⟨.long gs s, n⟩ := by
  simp only [long, Option.bind_eq_bind, Option.bind_eq_some_iff, Prod.exists, mark_eq_some_iff,
    scanPort_eq_some_iff]
  constructor
  · rintro ⟨_, rfl, gs, behind, read, _, closed, n, _, ⟨p, rfl, port, ends⟩, made⟩
    cases made
    obtain ⟨t, rfl, groups⟩ := eightGroups_sound read
    obtain ⟨u, rfl, scope⟩ := scanScope_sound (Prod.ext rfl closed)
    exact ⟨t, u, p, gs, _, n, rfl, groups, scope, port, ends, rfl⟩
  · rintro ⟨t, u, p, gs, s, n, rfl, groups, scope, port, ends, rfl⟩
    have halts : Halts (u ++ ']' :: ':' :: (p ++ rest)) := by
      cases scope with
      | none => exact .close _
      | some _ _ => exact .scope _
    refine ⟨_, rfl, gs, _, eightGroups_complete groups halts, ?_⟩
    rw [scanScope_complete scope]
    exact ⟨_, rfl, n, rest, ⟨p, rfl, port, ends⟩, rfl⟩

/-- The texts that are read as an address are the texts of that address. -/
theorem ofText?_eq_some_iff {text : String} : ofText? text = some a ↔ Spells text.toList a := by
  have nothing : Ends 10 [] := by simp [Ends]
  have whole : ofText? text = some a ↔ (short text.toList).or (long text.toList) = some (a, []) := by
    unfold ofText?
    split
    next found => simp [found]
    next other =>
      simp only [reduceCtorEq, false_iff]
      exact other a
  rw [whole, Option.or_eq_some_iff]
  constructor
  · rintro (read | ⟨-, read⟩)
    · obtain ⟨t, p, b, c, d, e, n, split, octets, port, -, rfl⟩ := short_eq_some_iff.mp read
      rw [split, List.append_nil]
      exact .short octets port
    · obtain ⟨t, u, p, gs, s, n, split, groups, scope, port, -, rfl⟩ := long_eq_some_iff.mp read
      rw [split, List.append_nil]
      exact .long groups scope port
  · generalize text.toList = cs
    rintro (⟨octets, port⟩ | ⟨groups, scope, port⟩)
    · exact .inl (short_eq_some_iff.mpr
        ⟨_, _, _, _, _, _, _, by rw [List.append_nil], octets, port, nothing, rfl⟩)
    · -- A bracket is no digit, so the short form has been tried in vain.
      refine .inr ⟨?_, long_eq_some_iff.mpr
        ⟨_, _, _, _, _, _, by rw [List.append_nil], groups, scope, port, nothing, rfl⟩⟩
      rw [short, octets_eq_none (ends_cons.mpr rfl)]
      rfl

end Rendezvous.Address
