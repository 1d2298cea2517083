import Rendezvous.Proofs.Address
import Rendezvous.Proofs.Decimal.Word
import Rendezvous.Proofs.Settings

/-!
# Variables that are valid

What a variable has to be is said here by the grammar of its text, and the conditions on all the
variables stand in one list. Variables are accepted exactly if they meet each of the conditions.
Otherwise the error is that of the first one in the list that they violate (`accepted_exactly`).
The one condition that joins three variables speaks of the exact sum of two of them, and a
variable that is not there takes part with its default.
-/

namespace Rendezvous

/-- A character stays as it is in small letters, unless it is one of those up to the last capital
letter. -/
theorem Text.toLower_cases (P : Char → Char → Prop) (same : ∀ c, c.toLower = c → P c c)
    (letters : ∀ n ≤ 'Z'.toNat, P (Char.ofNat n) (Char.ofNat n).toLower) (c : Char) :
    P c c.toLower := by
  cases large : c.isUpper with
  | true =>
    have upTo : c.toNat ≤ 'Z'.toNat := (of_decide_eq_true large).2
    have small := letters c.toNat upTo
    rwa [Char.ofNat_toNat] at small
  | false =>
    have stays : c.toLower = c := dif_neg (of_decide_eq_false large)
    rw [stays]
    exact same c stays

/-- The name of a log format. -/
def LogFormat.name : LogFormat → String
  | .text => "text"
  | .json => "json"

namespace Settings

/-! ## Conditions -/

/-- A path that begins with a slash and does not end with one. -/
structure RootPath (path : String) : Prop where
  begins : path.toList.head? = some '/'
  ends : path.toList.getLast? ≠ some '/'

/-- The text writes a positive number of 64 bits. -/
structure PositiveWord (text : String) (n : Nat) : Prop where
  writes : Decimal.Writes text.toList n
  pos : 1 ≤ n
  small : n < 2 ^ 64

/-- What the text of a variable has to be. -/
inductive Form where
  | address
  | root
  | header
  | number
  | logFormat

/-- The text has the form. -/
def Form.Good (text : String) : Form → Prop
  | address => ∃ a, Address.Spells text.toList a
  | root => RootPath text
  | header => ∃ c ∈ text.toList, Text.isBlank c = false
  | number => ∃ n, PositiveWord text n
  | logFormat => ∃ f : LogFormat, Text.lowerAscii text = f.name

/-- What is said about a text that has not the form. -/
inductive Form.Report (name text : String) : Form → SettingError → Prop
  | address : Report name text address (.badAddress name text)
  | root : Report name text root (.badPath text)
  | header : Report name text header .blankHeader
  | number {error : Decimal.WordError} (flawed : Decimal.Flawed text.toList error) :
      Report name text number (.badNumber name text error)
  | zero (writes : Decimal.Writes text.toList 0) : Report name text number (.zero name)
  | logFormat : Report name text logFormat (.badLogFormat (Text.lowerAscii text))

/-- The variable stands for a value: one that its text means, or the default if there is no
text. -/
def StandsFor {α : Type} (vars : Variables) (name : String) (fallback : α)
    (means : String → α → Prop) (value : α) : Prop :=
  match vars name with
  | none => value = fallback
  | some text => means text value

/-- A backlog is the three numbers that the last number has to be large enough for. -/
structure Backlog (vars : Variables) (pending tracks buffer : Nat) : Prop where
  pending : StandsFor vars "RELAY_MAX_PENDING_MESSAGES" default.limits.pending PositiveWord pending
  tracks : StandsFor vars "RELAY_MAX_CACHED_TRACKS" default.limits.tracks PositiveWord tracks
  buffer : StandsFor vars "RELAY_CONNECTION_BUFFER" default.buffer PositiveWord buffer

/-- The buffer that a backlog needs: the exact sum, or the largest number of 64 bits if that is
smaller. -/
def needed (pending tracks : Nat) : Nat := min (2 ^ 64 - 1) (pending + 2 * tracks)

/-- A condition on the variables: the form of one of them, or the size of the buffer. -/
inductive Condition where
  | hasForm (name : String) (form : Form)
  | backlog

/-- The conditions in their order. -/
def conditions : List Condition :=
  [.hasForm "RELAY_BIND_ADDRESS" .address, .hasForm "RELAY_HEALTH_BIND_ADDRESS" .address,
    .hasForm "RELAY_API_PREFIX" .root, .hasForm "RELAY_IDENTITY_HEADER" .header,
    .hasForm "RELAY_EVICTION_INTERVAL_SECONDS" .number, .hasForm "RELAY_MAX_IDLE_SECONDS" .number,
    .hasForm "RELAY_MAX_PENDING_MESSAGES" .number, .hasForm "RELAY_MAX_CACHED_TRACKS" .number,
    .hasForm "RELAY_CONNECTION_BUFFER" .number, .backlog, .hasForm "RELAY_LOG_FORMAT" .logFormat]

/-- The variables meet the condition. A variable that is not there has every form. -/
def Condition.Met (vars : Variables) : Condition → Prop
  | hasForm name form => ∀ text, vars name = some text → form.Good text
  | backlog => ∀ pending tracks buffer, Backlog vars pending tracks buffer →
      needed pending tracks ≤ buffer

/-- The variables violate the condition, which is reported by an error. -/
inductive Condition.Violated (vars : Variables) : Condition → SettingError → Prop
  | hasForm {name text : String} {form : Form} {e : SettingError} (given : vars name = some text)
      (bad : ¬ form.Good text) (report : form.Report name text e) :
      Violated vars (hasForm name form) e
  | backlog {pending tracks buffer : Nat} (numbers : Backlog vars pending tracks buffer)
      (small : buffer < needed pending tracks) :
      Violated vars backlog (.smallBuffer (needed pending tracks) buffer)

/-- The first of the conditions that is violated is reported by an error. -/
inductive FirstViolated (vars : Variables) (e : SettingError) : List Condition → Prop
  | here {c : Condition} {later : List Condition} (violated : c.Violated vars e) :
      FirstViolated vars e (c :: later)
  | later {c : Condition} {later : List Condition} (met : c.Met vars)
      (first : FirstViolated vars e later) : FirstViolated vars e (c :: later)

/-- Each setting is what its variable stands for. -/
structure Follows (vars : Variables) (s : Settings) : Prop where
  bind : StandsFor vars "RELAY_BIND_ADDRESS" default.bind
    (fun text => Address.Spells text.toList) s.bind
  healthBind : StandsFor vars "RELAY_HEALTH_BIND_ADDRESS" default.healthBind
    (fun text => Address.Spells text.toList) s.healthBind
  root : StandsFor vars "RELAY_API_PREFIX" default.root (fun text path => path = text) s.root
  identityHeader : StandsFor vars "RELAY_IDENTITY_HEADER" default.identityHeader
    (fun text name => name = Text.lowerAscii text) s.identityHeader
  interval : StandsFor vars "RELAY_EVICTION_INTERVAL_SECONDS" default.sweep.interval
    PositiveWord s.sweep.interval
  maxIdle : StandsFor vars "RELAY_MAX_IDLE_SECONDS" default.sweep.maxIdle
    PositiveWord s.sweep.maxIdle
  backlog : Backlog vars s.limits.pending s.limits.tracks s.buffer
  logFormat : StandsFor vars "RELAY_LOG_FORMAT" default.logFormat
    (fun text f => Text.lowerAscii text = f.name) s.logFormat

/-! ## One variable -/

/-- What a variable says, as it is read from its text. -/
def readBy {α : Type} (vars : Variables) (name : String) (fallback : α)
    (read : String → Except SettingError α) : Except SettingError α :=
  match vars name with
  | none => .ok fallback
  | some text => read text

/-- Nothing else is looked at. -/
theorem readBy_congr {α : Type} {vars other : Variables} {name : String}
    (same : other name = vars name) (fallback : α) (read : String → Except SettingError α) :
    readBy other name fallback read = readBy vars name fallback read := by
  unfold readBy
  rw [same]

/-- A reader takes the texts of a form for what they mean, and reports all others. -/
structure ReadsForm {α : Type} (name : String) (form : Form) (means : String → α → Prop)
    (read : String → Except SettingError α) : Prop where
  ok_iff {text : String} {value : α} : read text = .ok value ↔ form.Good text ∧ means text value
  error_iff {text : String} {e : SettingError} :
    read text = .error e ↔ ¬ form.Good text ∧ form.Report name text e

section ReadBy

variable {α : Type} {vars : Variables} {name : String} {form : Form} {fallback value : α}
  {means : String → α → Prop} {read : String → Except SettingError α} {e : SettingError}
  (h : ReadsForm name form means read)

include h

/-- A variable is read exactly if it has the form that is asked for, and what is read is what it
stands for. -/
theorem readBy_eq_ok_iff : readBy vars name fallback read = .ok value ↔
    (Condition.hasForm name form).Met vars ∧ StandsFor vars name fallback means value := by
  simp only [readBy, Condition.Met, StandsFor]
  cases vars name with
  | none => simp [eq_comm]
  | some text => simp [h.ok_iff]

/-- And it is refused exactly for violating that form. -/
theorem readBy_eq_error_iff : readBy vars name fallback read = .error e ↔
    (Condition.hasForm name form).Violated vars e := by
  have violated : (Condition.hasForm name form).Violated vars e ↔
      ∃ text, vars name = some text ∧ ¬ form.Good text ∧ form.Report name text e := by
    constructor
    · rintro (⟨given, bad, report⟩)
      exact ⟨_, given, bad, report⟩
    · rintro ⟨text, given, bad, report⟩
      exact .hasForm given bad report
  rw [violated]
  unfold readBy
  cases vars name with
  | none => simp
  | some text => simp [h.error_iff]

end ReadBy

/-! ## The readers -/

/-- The address that a text is. -/
def addressOf (name text : String) : Except SettingError Address :=
  match Address.ofText? text with
  | some a => .ok a
  | none => .error (.badAddress name text)

/-- The positive number that a text is. -/
def numberOf (name text : String) : Except SettingError Nat :=
  match Decimal.word text with
  | .error e => .error (.badNumber name text e)
  | .ok 0 => .error (.zero name)
  | .ok n => .ok n

/-- The root path that a text is. -/
def rootOf (path : String) : Except SettingError String :=
  if isRoot path then .ok path else .error (.badPath path)

/-- The name of a header that a text is. -/
def headerOf (text : String) : Except SettingError String :=
  if Text.isBlankText (Text.lowerAscii text) then .error .blankHeader
  else .ok (Text.lowerAscii text)

variable {vars : Variables} {name : String} {e : SettingError}

theorem address_eq (vars : Variables) (name : String) (fallback : Address) :
    address vars name fallback = readBy vars name fallback (addressOf name) := by
  unfold address readBy
  cases vars name <;> rfl

theorem positive_eq (vars : Variables) (name : String) (fallback : Nat) :
    positive vars name fallback = readBy vars name fallback (numberOf name) := by
  unfold positive readBy
  cases vars name <;> rfl

theorem rootPath_eq (vars : Variables) :
    rootPath vars = readBy vars "RELAY_API_PREFIX" default.root rootOf := by
  have fine : isRoot default.root = true := by decide
  unfold rootPath readBy
  cases vars "RELAY_API_PREFIX" with
  | none => simp [fine]
  | some text => rfl

theorem header_eq (vars : Variables) :
    header vars = readBy vars "RELAY_IDENTITY_HEADER" default.identityHeader headerOf := by
  have fine : Text.isBlankText default.identityHeader = false := by decide
  unfold header readBy
  cases vars "RELAY_IDENTITY_HEADER" with
  | none => simp [fine]
  | some text => rfl

theorem format_eq (vars : Variables) :
    format vars = readBy vars "RELAY_LOG_FORMAT" default.logFormat LogFormat.ofText := rfl

/-- Addresses are read by their form. -/
theorem reads_address (name : String) :
    ReadsForm name .address (fun text => Address.Spells text.toList) (addressOf name) where
  ok_iff {text a} := by
    simp only [addressOf, Form.Good, ← Address.ofText?_eq_some_iff]
    cases Address.ofText? text <;> simp
  error_iff {text e} := by
    have report : Form.Report name text .address e ↔ e = .badAddress name text := by
      constructor
      · rintro ⟨⟩
        rfl
      · rintro rfl
        exact .address
    simp only [addressOf, Form.Good, ← Address.ofText?_eq_some_iff, report]
    cases Address.ofText? text <;> simp [eq_comm]

theorem wordMax_eq : Decimal.wordMax = 2 ^ 64 - 1 := rfl

/-- A text writes one number at most. -/
theorem writes_unique {text : List Char} {m n : Nat} (h : Decimal.Writes text m)
    (h' : Decimal.Writes text n) : m = n :=
  h.worth.symm.trans h'.worth

theorem word_eq_ok_iff {text : String} {n : Nat} :
    Decimal.word text = .ok n ↔ Decimal.Writes text.toList n ∧ n < 2 ^ 64 := by
  rw [Decimal.word, Decimal.wordOfChars_eq_ok_iff, wordMax_eq, Nat.le_sub_one_iff_lt (by decide)]

/-- What a text is refused for is its flaw, read from the left. -/
theorem word_eq_error_iff {text : String} {flaw : Decimal.WordError} :
    Decimal.word text = .error flaw ↔ Decimal.Flawed text.toList flaw :=
  Decimal.wordOfChars_eq_error_iff

/-- A number is read exactly if the text writes a word above zero. -/
theorem numberOf_eq_ok_iff {text : String} {n : Nat} :
    numberOf name text = .ok n ↔ PositiveWord text n := by
  have positive : PositiveWord text n ↔ Decimal.word text = .ok n ∧ n ≠ 0 := by
    rw [word_eq_ok_iff]
    exact ⟨fun h => ⟨⟨h.writes, h.small⟩, Nat.ne_of_gt h.pos⟩,
      fun h => ⟨h.1.1, Nat.one_le_iff_ne_zero.mpr h.2, h.1.2⟩⟩
  rw [positive, numberOf]
  split
  next read => simp [read]
  next read =>
    rw [read]
    simp only [reduceCtorEq, Except.ok.injEq, false_iff]
    rintro ⟨rfl, zero⟩
    exact zero rfl
  next m notZero read =>
    rw [read]
    simp only [Except.ok.injEq, ne_eq, iff_self_and]
    rintro rfl rfl
    exact notZero rfl

/-- A number is refused for its flaw, or for being zero. -/
theorem numberOf_eq_error_iff {text : String} : numberOf name text = .error e ↔
    (∃ flaw, Decimal.word text = .error flaw ∧ e = .badNumber name text flaw) ∨
      Decimal.word text = .ok 0 ∧ e = .zero name := by
  unfold numberOf
  split
  next read => simp [read, eq_comm]
  next read => simp [read, eq_comm]
  next m notZero read =>
    have pos : m ≠ 0 := by
      rintro rfl
      exact notZero rfl
    simp [read, pos]

/-- Numbers are read by their form. -/
theorem reads_number (name : String) :
    ReadsForm name .number PositiveWord (numberOf name) where
  ok_iff {text n} := by
    rw [numberOf_eq_ok_iff]
    exact ⟨fun h => ⟨⟨n, h⟩, h⟩, And.right⟩
  error_iff {text e} := by
    constructor
    · intro found
      -- A value that is good would have been read, so the two cannot both hold.
      have bad : ¬ Form.number.Good text := by
        rintro ⟨n, good⟩
        rw [numberOf_eq_ok_iff.mpr good] at found
        cases found
      refine ⟨bad, ?_⟩
      obtain ⟨flaw, read, rfl⟩ | ⟨read, rfl⟩ := numberOf_eq_error_iff.mp found
      · exact .number (word_eq_error_iff.mp read)
      · exact .zero (word_eq_ok_iff.mp read).1
    · rintro ⟨-, _ | _ | _ | flawed | writes⟩
      · exact numberOf_eq_error_iff.mpr (.inl ⟨_, word_eq_error_iff.mpr flawed, rfl⟩)
      · exact numberOf_eq_error_iff.mpr (.inr ⟨word_eq_ok_iff.mpr ⟨writes, by decide⟩, rfl⟩)

theorem isRoot_iff {path : String} : isRoot path = true ↔ RootPath path := by
  unfold isRoot
  rw [Bool.and_eq_true, beq_iff_eq, bne_iff_ne]
  exact ⟨fun h => ⟨h.1, h.2⟩, fun h => ⟨h.begins, h.ends⟩⟩

/-- No letter is a blank. -/
theorem isBlank_toLower (c : Char) : Text.isBlank c.toLower = Text.isBlank c :=
  Text.toLower_cases (fun c d => Text.isBlank d = Text.isBlank c) (fun _ _ => rfl)
    (by decide +kernel) c

/-- A check that says the same of every text that fails it. -/
theorem readsForm_of_check {α : Type} {name : String} {form : Form} {value : String → α}
    (error : String → SettingError) {read : String → Except SettingError α}
    (passes : ∀ text, form.Good text → read text = .ok (value text))
    (fails : ∀ text, ¬ form.Good text → read text = .error (error text))
    (report : ∀ text e, form.Report name text e ↔ e = error text) :
    ReadsForm name form (fun text v => v = value text) read where
  ok_iff {text v} := by
    by_cases good : form.Good text
    · simp [passes text good, good, eq_comm]
    · simp [fails text good, good]
  error_iff {text e} := by
    by_cases good : form.Good text
    · simp [passes text good, good]
    · simp [fails text good, good, report, eq_comm]

/-- Root paths are read by their form, and as they are. -/
theorem reads_root : ReadsForm "RELAY_API_PREFIX" .root (fun text path => path = text) rootOf := by
  refine readsForm_of_check .badPath (fun text good => if_pos (isRoot_iff.mpr good))
    (fun text bad => if_neg fun root => bad (isRoot_iff.mp root)) fun text e => ?_
  constructor
  · rintro ⟨⟩
    rfl
  · rintro rfl
    exact .root

/-- Names of headers are read by their form, in small letters. -/
theorem reads_header : ReadsForm "RELAY_IDENTITY_HEADER" .header
    (fun text name => name = Text.lowerAscii text) headerOf := by
  have blank (text : String) : Text.isBlankText (Text.lowerAscii text) = false ↔
      Form.header.Good text := by
    simp [Form.Good, Text.isBlankText, Text.lowerAscii, isBlank_toLower]
  refine readsForm_of_check (fun _ => .blankHeader) (fun text good => ?_) (fun text bad => ?_)
    fun text e => ?_
  · rw [headerOf, (blank text).mpr good]
    rfl
  · rw [← blank, Bool.not_eq_false] at bad
    rw [headerOf, bad]
    rfl
  · constructor
    · rintro ⟨⟩
      rfl
    · rintro rfl
      exact .header

theorem ofText_eq (text : String) : LogFormat.ofText text =
    if Text.lowerAscii text = "text" then .ok .text
    else if Text.lowerAscii text = "json" then .ok .json
    else .error (.badLogFormat (Text.lowerAscii text)) := rfl

/-- A format is read from its name, in letters of any size. -/
theorem ofText_eq_ok_iff {text : String} {f : LogFormat} :
    LogFormat.ofText text = .ok f ↔ Text.lowerAscii text = f.name := by
  rw [ofText_eq]
  constructor
  · intro found
    split at found
    next same =>
      cases found
      exact same
    · split at found
      next same =>
        cases found
        exact same
      · cases found
  · intro same
    cases f with
    | text => exact if_pos same
    | json =>
      have json : Text.lowerAscii text = "json" := same
      simp [json]

/-- Any other text is refused, and the refusal shows it in small letters. -/
theorem ofText_eq_error_iff {text : String} : LogFormat.ofText text = .error e ↔
    (∀ f : LogFormat, Text.lowerAscii text ≠ f.name) ∧
      e = .badLogFormat (Text.lowerAscii text) := by
  constructor
  · intro found
    refine ⟨fun f same => ?_, ?_⟩
    · rw [ofText_eq_ok_iff.mpr same] at found
      cases found
    · rw [ofText_eq] at found
      split at found
      · cases found
      · split at found
        · cases found
        · cases found
          rfl
  · rintro ⟨other, rfl⟩
    exact (if_neg (other .text)).trans (if_neg (other .json))

/-- Formats are read by their form. -/
theorem reads_logFormat : ReadsForm "RELAY_LOG_FORMAT" .logFormat
    (fun text f => Text.lowerAscii text = f.name) LogFormat.ofText where
  ok_iff {text f} := by
    rw [ofText_eq_ok_iff]
    exact ⟨fun named => ⟨⟨f, named⟩, named⟩, And.right⟩
  error_iff {text e} := by
    have report : Form.Report "RELAY_LOG_FORMAT" text .logFormat e ↔
        e = .badLogFormat (Text.lowerAscii text) := by
      constructor
      · rintro ⟨⟩
        rfl
      · rintro rfl
        exact .logFormat
    rw [ofText_eq_error_iff, report, Form.Good, not_exists]

/-! ## All variables -/

/-- The backlog that a buffer has to take, from the two limits. -/
theorem needed_eq (l : Limits) : l.requiredBuffer = needed l.pending l.tracks := by
  unfold Limits.requiredBuffer Decimal.addSaturating Decimal.mulSaturating needed
  rw [wordMax_eq]
  omega

/-- A condition that is violated is not met. -/
theorem Condition.Violated.not_met {c : Condition} (h : c.Violated vars e) : ¬ c.Met vars := by
  intro met
  cases h with
  | hasForm given bad _ => exact bad (met _ given)
  | backlog numbers small => exact absurd (met _ _ _ numbers) (Nat.not_le.mpr small)

theorem FirstViolated.not_met {cs : List Condition} (h : FirstViolated vars e cs) :
    ∃ c ∈ cs, ¬ c.Met vars := by
  induction h with
  | here violated => exact ⟨_, List.mem_cons_self, violated.not_met⟩
  | later _ _ ih =>
    obtain ⟨c, member, unmet⟩ := ih
    exact ⟨c, List.mem_cons_of_mem _ member, unmet⟩

/-- One step of a check for which a condition stands, with the later ones behind it. -/
theorem bind_eq_error_iff {α β : Type} {x : Except SettingError α} {f : α → Except SettingError β}
    {c : Condition} {later : List Condition} (error_iff : ∀ e, x = .error e ↔ c.Violated vars e)
    (met : ∀ a, x = .ok a → c.Met vars)
    (next : ∀ a, x = .ok a → (f a = .error e ↔ FirstViolated vars e later)) :
    x >>= f = .error e ↔ FirstViolated vars e (c :: later) := by
  cases x with
  | error e' =>
    have violated := (error_iff e').mp rfl
    constructor
    · rintro ⟨⟩
      exact .here violated
    · -- A later condition cannot be the first one violated, because this one was not met.
      rintro (again | ⟨met, -⟩)
      · have same := (error_iff e).mpr again
        rw [same]
        rfl
      · exact absurd met violated.not_met
  | ok a =>
    have fine : ¬ c.Violated vars e := fun violated => violated.not_met (met a rfl)
    have bound : Except.ok a >>= f = f a := rfl
    rw [bound, next a rfl]
    constructor
    · exact .later (met a rfl)
    · rintro (violated | ⟨-, first⟩)
      · exact absurd violated fine
      · exact first

/-- A number that has to be positive is read exactly if it has the form. -/
theorem positive_eq_ok_iff {name : String} {fallback n : Nat} :
    positive vars name fallback = .ok n ↔
      (Condition.hasForm name .number).Met vars ∧ StandsFor vars name fallback PositiveWord n := by
  rw [positive_eq, readBy_eq_ok_iff (reads_number name)]

/-- A number that is read is the only one that its variable stands for. -/
theorem standsFor_iff {name : String} {fallback n : Nat}
    (read : positive vars name fallback = .ok n) (m : Nat) :
    StandsFor vars name fallback PositiveWord m ↔ m = n := by
  have stands := (positive_eq_ok_iff.mp read).2
  unfold StandsFor at *
  cases given : vars name with
  | none =>
    rw [given] at stands
    rw [stands]
  | some text =>
    rw [given] at stands
    constructor
    · intro word
      exact writes_unique word.writes stands.writes
    · rintro rfl
      exact stands

section Backlog

variable {pending tracks buffer : Nat}
  (readPending : positive vars "RELAY_MAX_PENDING_MESSAGES" default.limits.pending = .ok pending)
  (readTracks : positive vars "RELAY_MAX_CACHED_TRACKS" default.limits.tracks = .ok tracks)
  (readBuffer : positive vars "RELAY_CONNECTION_BUFFER" default.buffer = .ok buffer)

include readPending readTracks readBuffer

/-- The three numbers that the backlog is about are those that were read. -/
theorem backlog_iff (p t b : Nat) :
    Backlog vars p t b ↔ p = pending ∧ t = tracks ∧ b = buffer := by
  rw [← standsFor_iff readPending, ← standsFor_iff readTracks, ← standsFor_iff readBuffer]
  exact ⟨fun h => ⟨h.pending, h.tracks, h.buffer⟩, fun h => ⟨h.1, h.2.1, h.2.2⟩⟩

/-- The last check asks whether the buffer takes a backlog. -/
theorem checkBuffer_eq_ok_iff :
    checkBuffer ⟨pending, tracks⟩ buffer = .ok () ↔ Condition.backlog.Met vars := by
  have met : Condition.backlog.Met vars ↔ needed pending tracks ≤ buffer := by
    simp only [Condition.Met, backlog_iff readPending readTracks readBuffer]
    constructor
    · intro all
      exact all _ _ _ ⟨rfl, rfl, rfl⟩
    · rintro enough _ _ _ ⟨rfl, rfl, rfl⟩
      exact enough
  rw [met, checkBuffer, needed_eq]
  split
  next small => simp [small]
  next enough => simpa using enough

/-- And it refuses the buffer exactly if it does not. -/
theorem checkBuffer_eq_error_iff (e : SettingError) :
    checkBuffer ⟨pending, tracks⟩ buffer = .error e ↔ Condition.backlog.Violated vars e := by
  have violated : Condition.backlog.Violated vars e ↔
      buffer < needed pending tracks ∧ e = .smallBuffer (needed pending tracks) buffer := by
    constructor
    · rintro (_ | ⟨numbers, small⟩)
      obtain ⟨rfl, rfl, rfl⟩ := (backlog_iff readPending readTracks readBuffer _ _ _).mp numbers
      exact ⟨small, rfl⟩
    · rintro ⟨small, rfl⟩
      exact .backlog ((backlog_iff readPending readTracks readBuffer _ _ _).mpr ⟨rfl, rfl, rfl⟩)
        small
  rw [violated, checkBuffer, needed_eq]
  split
  next small => simp [small, eq_comm]
  next enough => simp [enough]

end Backlog

/-- To read a variable is to check the form of its text. -/
theorem readBy_bind_eq_error_iff {α β : Type} {name : String} {form : Form} {fallback : α}
    {means : String → α → Prop} {read : String → Except SettingError α}
    {f : α → Except SettingError β} {later : List Condition} (h : ReadsForm name form means read)
    (next : ∀ a, readBy vars name fallback read = .ok a →
      (f a = .error e ↔ FirstViolated vars e later)) :
    readBy vars name fallback read >>= f = .error e ↔
      FirstViolated vars e (.hasForm name form :: later) :=
  bind_eq_error_iff (fun _ => readBy_eq_error_iff h)
    (fun _ found => ((readBy_eq_ok_iff h).mp found).1) next

/-- The error is that of the first condition that is violated. -/
theorem load_eq_error_iff : load vars = .error e ↔ FirstViolated vars e conditions := by
  unfold load conditions
  simp only [address_eq, rootPath_eq, header_eq, positive_eq, format_eq]
  refine readBy_bind_eq_error_iff (reads_address _) fun bind _ => ?_
  refine readBy_bind_eq_error_iff (reads_address _) fun healthBind _ => ?_
  refine readBy_bind_eq_error_iff reads_root fun root _ => ?_
  refine readBy_bind_eq_error_iff reads_header fun header _ => ?_
  refine readBy_bind_eq_error_iff (reads_number _) fun interval _ => ?_
  refine readBy_bind_eq_error_iff (reads_number _) fun maxIdle _ => ?_
  refine readBy_bind_eq_error_iff (reads_number _) fun pending readPending => ?_
  refine readBy_bind_eq_error_iff (reads_number _) fun tracks readTracks => ?_
  refine readBy_bind_eq_error_iff (reads_number _) fun buffer readBuffer => ?_
  rw [← positive_eq] at readPending readTracks readBuffer
  refine bind_eq_error_iff (checkBuffer_eq_error_iff readPending readTracks readBuffer)
    (fun _ => (checkBuffer_eq_ok_iff readPending readTracks readBuffer).mp) fun _ _ => ?_
  refine readBy_bind_eq_error_iff reads_logFormat fun format _ => ?_
  exact ⟨nofun, nofun⟩

/-- What is loaded is what the variables stand for, and they meet all conditions. -/
theorem follows_of_load {s : Settings} (loaded : load vars = .ok s) :
    (∀ c ∈ conditions, c.Met vars) ∧ Follows vars s := by
  have h := load_eq_ok_iff.mp loaded
  have bind := h.bind
  have healthBind := h.healthBind
  have root := h.root
  have header := h.identityHeader
  have format := h.logFormat
  rw [address_eq, readBy_eq_ok_iff (reads_address _)] at bind healthBind
  rw [rootPath_eq, readBy_eq_ok_iff reads_root] at root
  rw [header_eq, readBy_eq_ok_iff reads_header] at header
  rw [format_eq, readBy_eq_ok_iff reads_logFormat] at format
  have interval := positive_eq_ok_iff.mp h.interval
  have maxIdle := positive_eq_ok_iff.mp h.maxIdle
  have pending := positive_eq_ok_iff.mp h.pending
  have tracks := positive_eq_ok_iff.mp h.tracks
  have buffer := positive_eq_ok_iff.mp h.buffer
  -- The one condition on several variables, so it needs their values first.
  have backlog := (checkBuffer_eq_ok_iff h.pending h.tracks h.buffer).mp h.takesBacklog
  constructor
  · simp only [conditions, List.forall_mem_cons, List.not_mem_nil, false_implies, implies_true,
      and_true]
    exact ⟨bind.1, healthBind.1, root.1, header.1, interval.1, maxIdle.1, pending.1, tracks.1,
      buffer.1, backlog, format.1⟩
  · exact ⟨bind.2, healthBind.2, root.2, header.2, interval.2, maxIdle.2,
      ⟨pending.2, tracks.2, buffer.2⟩, format.2⟩

/-- Only ten variables are looked at. -/
theorem load_congr {other : Variables} (same : ∀ name ∈ variableNames, other name = vars name) :
    load other = load vars := by
  simp only [variableNames, List.forall_mem_cons, List.not_mem_nil, false_implies, implies_true,
    and_true] at same
  obtain ⟨bind, health, root, header, interval, idle, pending, tracks, buffer, format⟩ := same
  unfold load
  simp only [address_eq, rootPath_eq, header_eq, positive_eq, format_eq, readBy_congr bind,
    readBy_congr health, readBy_congr root, readBy_congr header, readBy_congr interval,
    readBy_congr idle, readBy_congr pending, readBy_congr tracks, readBy_congr buffer,
    readBy_congr format]

/-- Settings are accepted exactly if they are valid. -/
theorem accepted_exactly (vars : Variables) :
    ((∃ s, load vars = .ok s) ↔ ∀ c ∈ conditions, c.Met vars) ∧
      (∀ s, load vars = .ok s → Follows vars s) ∧
      (∀ e, load vars = .error e ↔ FirstViolated vars e conditions) ∧
      ∀ other : Variables, (∀ name ∈ variableNames, other name = vars name) →
        load other = load vars := by
  refine ⟨⟨?_, ?_⟩, fun s loaded => (follows_of_load loaded).2, fun e => load_eq_error_iff,
    fun other same => load_congr same⟩
  · rintro ⟨s, loaded⟩
    exact (follows_of_load loaded).1
  · intro met
    cases loaded : load vars with
    | ok s => exact ⟨s, rfl⟩
    | error e =>
      obtain ⟨c, member, unmet⟩ := (load_eq_error_iff.mp loaded).not_met
      exact absurd (met c member) unmet

/-- No variables but the size of the buffer. -/
def bufferOnly (text : String) : Variables := fun name =>
  if name = "RELAY_CONNECTION_BUFFER" then some text else none

/-- Of 544 frames the backlog needs each, and a further variable changes nothing. -/
theorem accepted_exactly_at_need :
    (∀ c ∈ conditions, c.Met (bufferOnly "+0544")) ∧
      FirstViolated (bufferOnly "543") (.smallBuffer 544 543) conditions ∧
      load (fun name => if name = "HOME" then some "/" else bufferOnly "+0544" name) =
        load (bufferOnly "+0544") :=
  ⟨(accepted_exactly _).1.mp ⟨_, rfl⟩, ((accepted_exactly _).2.2.1 _).mp rfl,
    (accepted_exactly _).2.2.2 _ (by decide)⟩

end Settings

end Rendezvous
