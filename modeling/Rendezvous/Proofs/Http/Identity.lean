import Rendezvous.Proofs.Http.Access
import Rendezvous.Proofs.Settings.Validity

/-!
# Who can be named by a request

A request names the user on whose behalf it is made in a header that is configured. Any text that
a header can carry from end to end is the name of a user (`IsUserName`), and whoever has such a
name can make any request, if the configured name can be the name of a header at all. The
settings do not see to that: all that they ask of the name is that it is not blank. With a name
that no header has, such as one with a space in it, everybody is refused (`named_iff`).
-/

namespace Rendezvous

namespace Text

theorem lowerAscii_lowerAscii (s : String) : lowerAscii (lowerAscii s) = lowerAscii s := by
  have twice : ∀ c : Char, c.toLower.toLower = c.toLower :=
    toLower_cases (fun _ d => d.toLower = d) (fun _ stays => stays) (by decide +kernel)
  rw [lowerAscii, lowerAscii, String.toList_ofList, List.map_map]
  exact congrArg String.ofList (List.map_congr_left fun c _ => twice c)

/-- A text without blanks at its ends is not shortened. -/
theorem trimmed_eq_self {cs : List Char} (begins : ∀ c, cs.head? = some c → isBlank c = false)
    (ends : ∀ c, cs.getLast? = some c → isBlank c = false) : trimmed cs = cs := by
  have front : cs.dropWhile isBlank = cs := by
    cases cs with
    | nil => rfl
    | cons c rest => exact List.dropWhile_cons_of_neg (by simp [begins c rfl])
  show (cs.dropWhile isBlank).rdropWhile isBlank = cs
  rw [front, List.rdropWhile_eq_self_iff]
  intro notEmpty
  simp [ends _ (List.getLast?_eq_some_getLast notEmpty)]

theorem mem_of_mem_trimmed {c : Char} {cs : List Char} (mem : c ∈ trimmed cs) : c ∈ cs := by
  have inside : c ∈ cs.dropWhile isBlank := (List.rdropWhile_prefix isBlank _).subset mem
  exact (List.dropWhile_suffix isBlank).subset inside

/-- What is left of a text is without blanks at its ends. -/
theorem ends_trimmed (cs : List Char) :
    (∀ c, (trimmed cs).head? = some c → isBlank c = false) ∧
    (∀ c, (trimmed cs).getLast? = some c → isBlank c = false) := by
  have isPrefix : trimmed cs <+: cs.dropWhile isBlank := List.rdropWhile_prefix isBlank _
  constructor
  · intro c first
    have notEmpty : trimmed cs ≠ [] := by
      rintro empty
      rw [empty] at first
      cases first
    rw [List.head?_eq_some_head notEmpty, isPrefix.head notEmpty] at first
    rw [← Option.some.inj first]
    exact List.head_dropWhile_not isBlank _
  · intro c last
    have notEmpty : trimmed cs ≠ [] := by
      rintro empty
      rw [empty] at last
      cases last
    rw [List.getLast?_eq_some_getLast notEmpty] at last
    rw [← Option.some.inj last, ← Bool.not_eq_true]
    exact List.rdropWhile_last_not isBlank (cs.dropWhile isBlank) notEmpty

end Text

namespace Http

/-! ## Names of headers -/

/-- Only letters become others in small letters, and they become letters. -/
theorem isHeaderName_lowerAscii (s : String) :
    isHeaderName (Text.lowerAscii s) = isHeaderName s := by
  have inToken : ∀ c : Char, (c.toLower.isAlphanum || tokenMarks.contains c.toLower) =
      (c.isAlphanum || tokenMarks.contains c) :=
    Text.toLower_cases (fun c d => (d.isAlphanum || tokenMarks.contains d) =
      (c.isAlphanum || tokenMarks.contains c)) (fun _ _ => rfl) (by decide +kernel)
  have empty : (Text.lowerAscii s).isEmpty = s.isEmpty := by
    rw [Bool.eq_iff_iff, String.isEmpty_iff, String.isEmpty_iff, Text.lowerAscii,
      String.ofList_eq_empty_iff, List.map_eq_nil_iff, String.toList_eq_nil_iff]
  have length : (Text.lowerAscii s).length = s.length := by
    rw [Text.lowerAscii, String.length_ofList, List.length_map, String.length_toList]
  have all : (Text.lowerAscii s).toList.all (fun c => c.isAlphanum || tokenMarks.contains c) =
      s.toList.all fun c => c.isAlphanum || tokenMarks.contains c := by
    rw [Text.lowerAscii, String.toList_ofList, List.all_map]
    exact congrArg s.toList.all (funext inToken)
  unfold isHeaderName isToken
  rw [empty, length, all]

/-- A header whose name cannot be one is in no request. -/
theorem header?_of_no_name {name : String} (noName : isHeaderName name = false) (r : Request) :
    r.header? name = none := by
  unfold Request.header?
  rw [Option.map_eq_none_iff, List.find?_eq_none]
  -- What were found would be a token, and so would it be in small letters.
  intro h _ found
  rw [Bool.and_eq_true, beq_iff_eq] at found
  rw [← found.2, isHeaderName_lowerAscii, found.1] at noName
  cases noName

/-! ## Values of headers -/

/-- The character can stand in the value of a header that is text: the tab, the space, and all
that is visible in ASCII. -/
def IsTextChar (c : Char) : Prop := c = '\t' ∨ ' ' ≤ c ∧ c ≤ '~'

instance (c : Char) : Decidable (IsTextChar c) := inferInstanceAs (Decidable (_ ∨ _))

/-- A byte that can stand in text is a character that can. -/
theorem isTextChar_of_byte {b : UInt8} (isText : isTextByte b = true) :
    IsTextChar (Char.ofNat b.toNat) := by
  have all : ∀ n < 256, isTextByte (UInt8.ofNat n) = true → IsTextChar (Char.ofNat n) := by
    decide +kernel
  have isByte := all b.toNat b.toNat_lt
  rw [UInt8.ofNat_toNat] at isByte
  exact isByte isText

/-- Each such character is the text of one byte. -/
theorem byte_of_isTextChar {c : Char} (isText : IsTextChar c) :
    isTextByte (UInt8.ofNat c.toNat) = true ∧ Char.ofNat (UInt8.ofNat c.toNat).toNat = c := by
  have small : c.toNat < 127 := by
    rcases isText with rfl | ⟨-, upTo⟩
    · decide
    · exact Nat.lt_succ_of_le upTo
  have all : ∀ n < 127, IsTextChar (Char.ofNat n) →
      isTextByte (UInt8.ofNat n) = true ∧ (UInt8.ofNat n).toNat = n := by decide +kernel
  obtain ⟨isByte, same⟩ := all c.toNat small (by rwa [Char.ofNat_toNat])
  exact ⟨isByte, by rw [same, Char.ofNat_toNat]⟩

/-- The bytes of a text that is all ASCII. -/
def asciiBytes (s : String) : List UInt8 := s.toList.map fun c => UInt8.ofNat c.toNat

/-- Text of such characters is read back from its bytes. -/
theorem valueText?_asciiBytes {s : String} (isText : ∀ c ∈ s.toList, IsTextChar c) :
    valueText? (asciiBytes s) = some s := by
  have bytes : (asciiBytes s).all isTextByte = true := by
    simp only [asciiBytes, List.all_map, List.all_eq_true]
    exact fun c mem => (byte_of_isTextChar (isText c mem)).1
  have chars : (asciiBytes s).map (fun b => Char.ofNat b.toNat) = s.toList := by
    rw [asciiBytes, List.map_map]
    exact (List.map_congr_left fun c mem => (byte_of_isTextChar (isText c mem)).2).trans
      (List.map_id _)
  rw [valueText?, if_pos bytes, chars, String.ofList_toList]

/-- Of the characters of a text only the tab and the space are blank. -/
theorem isBlank_of_isTextChar {c : Char} (isText : IsTextChar c) :
    Text.isBlank c = true ↔ c = ' ' ∨ c = '\t' := by
  obtain ⟨isByte, same⟩ := byte_of_isTextChar isText
  have blank := isBlank_of_isTextByte isByte
  rw [same] at blank
  rw [blank]
  constructor
  · rintro (tab | space)
    · rw [tab] at same
      exact Or.inr same.symm
    · rw [space] at same
      exact Or.inl same.symm
  · rintro (rfl | rfl) <;> decide

/-! ## Users -/

/-- The text can be the name of a user. It is a text that a header can carry, and begins and ends
with something visible. -/
structure IsUserName (user : String) : Prop where
  isText : ∀ c ∈ user.toList, IsTextChar c
  notEmpty : user ≠ ""
  begins : ∀ c, user.toList.head? = some c → c ≠ ' ' ∧ c ≠ '\t'
  ends : ∀ c, user.toList.getLast? = some c → c ≠ ' ' ∧ c ≠ '\t'

section
variable {r : Request} {name user : String}

/-- A request is made on behalf of the trimmed text of the first value, if anything is left of
it. -/
theorem identity?_eq_some_iff : r.identity? name = some user ↔
    ∃ text, (r.header? name).bind valueText? = some text ∧ Text.trim text = user ∧ user ≠ "" := by
  unfold Request.identity?
  rw [Option.bind_eq_some_iff]
  refine exists_congr fun text => and_congr_right fun _ => ?_
  dsimp only
  split
  next empty =>
    rw [String.isEmpty_iff] at empty
    exact ⟨nofun, fun ⟨same, notEmpty⟩ => absurd (same.symm.trans empty) notEmpty⟩
  next notEmpty =>
    rw [String.isEmpty_iff] at notEmpty
    rw [Option.some.injEq]
    exact ⟨fun same => ⟨same, same ▸ notEmpty⟩, And.left⟩

/-- Whoever is named by a request has a name that can be one. -/
theorem isUserName_of_identity? (isUser : r.identity? name = some user) : IsUserName user := by
  obtain ⟨text, given, rfl, notEmpty⟩ := identity?_eq_some_iff.mp isUser
  obtain ⟨value, -, isValue⟩ := Option.bind_eq_some_iff.mp given
  have chars : (Text.trim text).toList = Text.trimmed text.toList := String.toList_ofList
  have isText : ∀ c ∈ (Text.trim text).toList, IsTextChar c := by
    intro c mem
    rw [chars] at mem
    unfold valueText? at isValue
    split at isValue
    next bytes =>
      cases isValue
      have inside := Text.mem_of_mem_trimmed mem
      rw [String.toList_ofList] at inside
      obtain ⟨b, isByte, rfl⟩ := List.mem_map.mp inside
      exact isTextChar_of_byte (List.all_eq_true.mp bytes b isByte)
    next => cases isValue
  -- Trimming goes by all white space. Of the characters of a header only these two are white.
  have visible : ∀ c ∈ (Text.trim text).toList, Text.isBlank c = false → c ≠ ' ' ∧ c ≠ '\t' := by
    intro c mem seen
    rw [← not_or, ← isBlank_of_isTextChar (isText c mem), seen]
    exact Bool.false_ne_true
  obtain ⟨begins, ends⟩ := Text.ends_trimmed text.toList
  rw [← chars] at begins ends
  exact ⟨isText, notEmpty, fun c first => visible c (List.mem_of_head? first) (begins c first),
    fun c last => visible c (List.mem_of_getLast? last) (ends c last)⟩

/-- **Every name can be given**, by a header with that name as its value. -/
theorem identity?_of_isUserName (isUser : IsUserName user)
    (given : r.header? name = some (asciiBytes user)) : r.identity? name = some user := by
  have notBlank : ∀ c ∈ user.toList, c ≠ ' ' ∧ c ≠ '\t' → Text.isBlank c = false := by
    intro c mem visible
    rw [← Bool.not_eq_true, isBlank_of_isTextChar (isUser.isText c mem), not_or]
    exact visible
  have whole : Text.trimmed user.toList = user.toList :=
    Text.trimmed_eq_self
      (fun c first => notBlank c (List.mem_of_head? first) (isUser.begins c first))
      fun c last => notBlank c (List.mem_of_getLast? last) (isUser.ends c last)
  refine identity?_eq_some_iff.mpr ⟨user, ?_, ?_, isUser.notEmpty⟩
  · rw [given]
    exact valueText?_asciiBytes isUser.isText
  · rw [Text.trim, whole, String.ofList_toList]

end

/-! ## Requests in due form -/

/-- The bytes can be the value of a header: text, or beyond ASCII, without spaces and tabs at the
ends. -/
structure IsHeaderValue (value : List UInt8) : Prop where
  bytes : ∀ b ∈ value, isTextByte b = true ∨ 128 ≤ b
  begins : ∀ b, value.head? = some b → b ≠ 32 ∧ b ≠ 9
  ends : ∀ b, value.getLast? = some b → b ≠ 32 ∧ b ≠ 9

/-- The request can be sent. -/
structure Request.WellFormed (r : Request) : Prop where
  method : isToken r.method = true
  target : r.target.toList.head? = some '/'
  visible : ∀ c ∈ r.target.toList, '!' ≤ c ∧ c ≤ '~'
  names : ∀ h ∈ r.headers, isHeaderName h.1 = true
  values : ∀ h ∈ r.headers, IsHeaderValue h.2

/-- The request on behalf of a user, and with nothing else said about it. -/
def Request.onBehalf (r : Request) (header user : String) : Request :=
  { r with headers := [(header, asciiBytes user)] }

/-- The bytes of a name can be the value of a header. -/
theorem isHeaderValue_asciiBytes {user : String} (isUser : IsUserName user) :
    IsHeaderValue (asciiBytes user) := by
  -- A character can be told from its byte, so no other one becomes a space or a tab.
  have visible : ∀ c ∈ user.toList, c ≠ ' ' ∧ c ≠ '\t' →
      UInt8.ofNat c.toNat ≠ 32 ∧ UInt8.ofNat c.toNat ≠ 9 := by
    rintro c mem ⟨noSpace, noTab⟩
    obtain ⟨-, same⟩ := byte_of_isTextChar (isUser.isText c mem)
    constructor
    · intro space
      rw [space] at same
      exact noSpace same.symm
    · intro tab
      rw [tab] at same
      exact noTab same.symm
  refine ⟨fun b mem => ?_, fun b first => ?_, fun b last => ?_⟩
  · obtain ⟨c, isChar, rfl⟩ := List.mem_map.mp mem
    exact Or.inl (byte_of_isTextChar (isUser.isText c isChar)).1
  · rw [asciiBytes, List.head?_map, Option.map_eq_some_iff] at first
    obtain ⟨c, isFirst, rfl⟩ := first
    exact visible c (List.mem_of_head? isFirst) (isUser.begins c isFirst)
  · rw [asciiBytes, List.getLast?_map, Option.map_eq_some_iff] at last
    obtain ⟨c, isLast, rfl⟩ := last
    exact visible c (List.mem_of_getLast? isLast) (isUser.ends c isLast)

section
variable {r : Request} {header user : String}

/-- A request stays well formed with the header put in front. -/
theorem wellFormed_onBehalf (isRequest : r.WellFormed) (isName : isHeaderName header = true)
    (isUser : IsUserName user) : (r.onBehalf header user).WellFormed where
  method := isRequest.method
  target := isRequest.target
  visible := isRequest.visible
  names h mem := by
    rw [List.mem_singleton.mp mem]
    exact isName
  values h mem := by
    rw [List.mem_singleton.mp mem]
    exact isHeaderValue_asciiBytes isUser

/-- And it is made on behalf of the user that the header names. -/
theorem identity?_onBehalf (isName : isHeaderName header = true)
    (small : Text.lowerAscii header = header) (isUser : IsUserName user) :
    (r.onBehalf header user).identity? header = some user := by
  have found : (isHeaderName header && Text.lowerAscii header == header) = true := by
    rw [isName, small]
    exact beq_self_eq_true header
  apply identity?_of_isUserName isUser
  show Option.map _ (List.find? _ [_]) = _
  rw [List.find?_singleton, if_pos found]
  rfl

end

/-! ## The configured name -/

/-- The configured header can be one exactly if the text of its variable can: it is taken over in
small letters and otherwise as it is. -/
theorem isHeaderName_of_load {vars : Variables} {s : Settings}
    (loaded : Settings.load vars = .ok s) :
    Text.lowerAscii s.identityHeader = s.identityHeader ∧
    (isHeaderName s.identityHeader = true ↔
      ∀ text, vars "RELAY_IDENTITY_HEADER" = some text → isHeaderName text = true) := by
  have named := (Settings.follows_of_load loaded).2.identityHeader
  unfold Settings.StandsFor at named
  cases given : vars "RELAY_IDENTITY_HEADER" with
  | none =>
    rw [given] at named
    have isDefault : s.identityHeader = "x-authenticated-user" := named
    rw [isDefault]
    exact ⟨by decide, fun _ => nofun, fun _ => by decide⟩
  | some text =>
    rw [given] at named
    have isText : s.identityHeader = Text.lowerAscii text := named
    rw [isText, Text.lowerAscii_lowerAscii, isHeaderName_lowerAscii]
    exact ⟨rfl, fun isName _ same => Option.some.inj same ▸ isName, fun all => all text rfl⟩

/-- **Who can be named by a request**, under settings that have been accepted. Any request can be
made on behalf of anybody whose name can be one, if the identity header is not configured or is
configured with a text that can be the name of a header. Nobody else is ever named. With any other
text every request to a known route is refused with status 401, whatever headers it has. -/
theorem named_iff {vars : Variables} {s : Settings} (loaded : Settings.load vars = .ok s) :
    (∀ (r : Request) (user : String), r.WellFormed →
      ((∃ headers, ({ r with headers } : Request).WellFormed ∧
          ({ r with headers } : Request).identity? s.identityHeader = some user) ↔
        IsUserName user ∧
          ∀ text, vars "RELAY_IDENTITY_HEADER" = some text → isHeaderName text = true)) ∧
    ∀ text, vars "RELAY_IDENTITY_HEADER" = some text → isHeaderName text = false →
      ∀ (r : Request) (route : Route), Route.ofPath? s.root r.path = some route →
        ∃ response, response.status = 401 ∧
          ∀ relay, handle s relay r = (.response response, relay) := by
  obtain ⟨small, isName_iff⟩ := isHeaderName_of_load loaded
  constructor
  · intro r user isRequest
    rw [← isName_iff]
    constructor
    · rintro ⟨headers, -, isUser⟩
      -- Somebody is named, so the header was there, and has a name.
      refine ⟨isUserName_of_identity? isUser, ?_⟩
      by_contra noName
      rw [Bool.not_eq_true] at noName
      rw [Request.identity?, header?_of_no_name noName] at isUser
      cases isUser
    · rintro ⟨isUser, isName⟩
      exact ⟨_, wellFormed_onBehalf isRequest isName isUser, identity?_onBehalf isName small isUser⟩
  · intro text given noName r route isRoute
    have notOne : isHeaderName s.identityHeader = false := by
      rw [← Bool.not_eq_true, isName_iff]
      intro all
      rw [all text given] at noName
      cases noName
    exact handle_of_anonymous isRoute (Or.inl (header?_of_no_name notOne r))

/-- A request to make a room. -/
def opening : Request := { method := "POST", target := "/watchparty/api/rooms", headers := [] }

theorem wellFormed_opening : opening.WellFormed where
  method := by decide +kernel
  target := by decide +kernel
  visible := by
    have all : opening.target.toList.all (fun c => '!' ≤ c && c ≤ '~') = true := by decide +kernel
    simpa only [List.all_eq_true, Bool.and_eq_true, decide_eq_true_eq] using all
  names := nofun
  values := nofun

theorem isUserName_host : IsUserName "our host" where
  isText := by
    have all : "our host".toList.all (fun c => IsTextChar c) = true := by decide +kernel
    simpa only [List.all_eq_true, decide_eq_true_eq] using all
  notEmpty := by decide
  begins := by
    rintro _ ⟨⟩
    decide
  ends := by
    rintro _ ⟨⟩
    decide

/-- Nothing is configured but the identity header. -/
def headed (text : String) : Variables := Settings.listed [("RELAY_IDENTITY_HEADER", text)]

/-- With one name of the header the host can make a room, and with another nobody can. -/
theorem named_iff_opening :
    let fine := { Settings.default with identityHeader := "x-forwarded-user" }
    let odd := { Settings.default with identityHeader := "x user" }
    Settings.load (headed "X-Forwarded-User") = .ok fine ∧
    (∃ headers, ({ opening with headers } : Request).WellFormed ∧
      ({ opening with headers } : Request).identity? "x-forwarded-user" = some "our host") ∧
    Settings.load (headed "X User") = .ok odd ∧
    (¬ ∃ headers, ({ opening with headers } : Request).WellFormed ∧
      ({ opening with headers } : Request).identity? "x user" = some "our host") ∧
    ∃ response, response.status = 401 ∧
      ∀ relay, handle odd relay opening = (.response response, relay) := by
  intro fine odd
  have isFine : Settings.load (headed "X-Forwarded-User") = .ok fine := rfl
  have isOdd : Settings.load (headed "X User") = .ok odd := rfl
  -- The first name can stand in a header. The second has a space, and no header has it.
  obtain ⟨someone, -⟩ := named_iff isFine
  obtain ⟨noOne, refused⟩ := named_iff isOdd
  have noName : isHeaderName "X User" = false := by decide +kernel
  have isRoute : Route.ofPath? odd.root opening.path = some .rooms := by decide +kernel
  refine ⟨isFine, (someone _ _ wellFormed_opening).mpr ⟨isUserName_host, ?_⟩, isOdd,
    fun named => ?_, refused _ rfl noName _ _ isRoute⟩
  · rintro text ⟨⟩
    decide +kernel
  · obtain ⟨-, isName⟩ := (noOne _ _ wellFormed_opening).mp named
    rw [isName "X User" rfl] at noName
    cases noName

/-- The settings are accepted with a name that has spaces around it, and keep the spaces. Such a
header is in no request, so nobody can be named, and whoever makes a request is refused. -/
theorem nobody_named :
    let padded := { Settings.default with identityHeader := " x-user " }
    Settings.load (headed " X-User ") = .ok padded ∧ IsUserName "our host" ∧
    (∀ r : Request, r.identity? padded.identityHeader ≠ some "our host") ∧
    ∀ (r : Request) (route : Route), Route.ofPath? padded.root r.path = some route →
      ∃ response, response.status = 401 ∧
        ∀ relay, handle padded relay r = (.response response, relay) := by
  intro padded
  have noName : isHeaderName padded.identityHeader = false := by decide +kernel
  refine ⟨rfl, isUserName_host, fun r named => ?_, fun r route isRoute => ?_⟩
  · have unnamed : r.identity? padded.identityHeader = none :=
      identity?_eq_none_iff.mpr (Or.inl (header?_of_no_name noName r))
    rw [unnamed] at named
    cases named
  · exact handle_of_anonymous isRoute (Or.inl (header?_of_no_name noName r))

end Http

end Rendezvous
