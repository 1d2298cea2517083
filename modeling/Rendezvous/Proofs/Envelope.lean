import Rendezvous.Frame
import Rendezvous.Proofs.Json.RoundTrip

/-!
# Envelopes on the wire

An envelope that was read from a text is sent on as another text, with the members in the
written order and nothing that the reader passed over. The peer reads the same envelope from it
(`text_round_trip`). What the relay read has a shape: no deeper than the reader goes, and the
members of every object in the order of their names (`shaped_decode`). That is all that
reading back needs, doubles apart (`decode_wireText`).
-/

namespace Rendezvous

namespace Envelope

/-- What the reader of envelopes has of a payload is shaped. -/
def Draft.Shaped (d : Draft) : Prop := ∀ v ∈ d.payload, v.Shaped payloadDepth

/-- The payload of whatever was decoded is within the depth that the reader allows. -/
theorem shaped_decode {s : String} {e : Envelope} (h : decode s = .ok e) :
    e.payload.Shaped payloadDepth := by
  obtain ⟨⟨x, c⟩, isRecord, ends⟩ := bind_eq_ok_iff.mp h
  dsimp only at ends
  split at ends
  next =>
    cases ends
    refine Json.gives_record (P := Draft.Shaped) (Q := fun e => e.payload.Shaped payloadDepth)
      ?_ ?_ ?_ _ _ _ isRecord
    · intro m hm d start c d' c' read
      simp only [shape, members, List.mem_cons, List.not_mem_nil, or_false] at hm
      -- Of the three members only the payload has a shape to keep.
      rcases hm with rfl | rfl | rfl
      · obtain ⟨⟨k, c₁⟩, -, made⟩ := bind_eq_ok_iff.mp read
        cases made
        exact start
      · obtain ⟨⟨v, c₁⟩, isValue, made⟩ := bind_eq_ok_iff.mp read
        cases made
        intro w hw
        obtain rfl : v = w := by simpa using hw
        exact Json.shaped_value payloadDepth _ _ _ isValue
      · obtain ⟨⟨t, c₁⟩, -, made⟩ := bind_eq_ok_iff.mp read
        cases made
        exact start
    · intro v hv
      cases hv
    · intro d e shaped finished
      unfold shape at finished
      dsimp only at finished
      unfold Draft.finish at finished
      split at finished
      next => cases finished
      next kind isKind =>
        cases finished
        cases isPayload : d.payload with
        | none => exact Json.Value.shaped_null _
        | some v => exact shaped v isPayload
  next => cases ends

/-! ## Reading an envelope back -/

section
variable {rest : List Char}

/-- A kind is read back from its name. -/
theorem reads_kind (k : Kind) : Json.Reads Kind.read (Json.printString k.name) k rest := by
  intro place
  have isName := Json.reads_printString k.name rest (place.step '"')
  have text : Json.printString k.name ++ rest =
      '"' :: (k.name.toList.flatMap Json.printChar ++ ['"'] ++ rest) := by simp [Json.printString]
  have chosen : ∀ c, Json.choose (Kind.all.map fun k => (k.name, k)) k.name c = .ok (k, c) := by
    intro c
    cases k <;> rfl
  rw [text]
  show (Json.string
    ⟨k.name.toList.flatMap Json.printChar ++ ['"'] ++ rest, place.step '"'⟩ >>= _) = _
  rw [isName]
  refine (chosen _).trans ?_
  simp [Json.printString]

/-- A string is read back where one is wanted. -/
theorem reads_wantString (s : String) :
    Json.Reads Json.wantString (Json.printString s) s rest := by
  intro place
  have isString := Json.reads_printString s rest (place.step '"')
  have text : Json.printString s ++ rest =
      '"' :: (s.toList.flatMap Json.printChar ++ ['"'] ++ rest) := by simp [Json.printString]
  rw [text]
  show Json.string ⟨s.toList.flatMap Json.printChar ++ ['"'] ++ rest, place.step '"'⟩ = _
  rw [isString]
  simp [Json.printString]

/-- What is read goes into a draft. -/
theorem reads_into {α : Type} {reader : Json.Reader α} {text : List Char} {x : α}
    (reads : Json.Reads reader text x rest) (fill : α → Draft) :
    Json.Reads (fun c => do
      let (x, c) ← reader c
      return (fill x, c)) text (fill x) rest := by
  intro place
  simp only [reads place, bind, Except.bind, pure, Except.pure]

end

/-- The members of an envelope as they are written. -/
def written (e : Envelope) : List (String × Json.Value) :=
  [("type", .string e.kind.name), ("payload", e.payload), ("trackType", .string e.track)]

/-- The three members, commas between them. -/
def inner (e : Envelope) : List Char :=
  (Json.followed (Json.entry Json.Value.print) e.written).drop 1

theorem toList_wireText (e : Envelope) : e.wireText.toList = '\x7b' :: (e.inner ++ ['\x7d']) := by
  simp [wireText, Json.recordText, Json.printMembers_eq, inner, written]

/-- There is enough fuel for the three members. -/
theorem length_inner (e : Envelope) : 3 < (e.inner ++ ['\x7d']).length := by
  simp [inner, written, Json.followed, Json.entry]
  omega

/-- The three members are read back, each into its place of the draft. -/
theorem named_inner {e : Envelope} (shaped : e.payload.Shaped payloadDepth)
    (whole : e.payload.isWhole = true) {fuel : Nat} (enough : 3 < fuel) (place : Json.Position) :
    Json.named members fuel true {} ⟨e.inner ++ ['\x7d'], place⟩ =
      .ok (⟨some e.kind, some e.payload, some e.track⟩,
        ⟨['\x7d'], e.inner.foldl Json.Position.step place⟩) := by
  obtain ⟨fuel, rfl⟩ : ∃ n, fuel = n + 4 := ⟨fuel - 4, by omega⟩
  have stops : ∀ d place, Json.named members (fuel + 1) false d ⟨['\x7d'], place⟩ =
      .ok (d, ⟨['\x7d'], place⟩) := fun _ _ => rfl
  simp only [inner, written, Json.followed, List.flatMap_cons, List.flatMap_nil, List.append_nil,
    List.cons_append, List.drop_one, List.tail_cons, List.append_assoc]
  rw [Json.named_of_toName ⟨some e.kind, none, none⟩
      (Json.toName_first ("type", .string e.kind.name) _ _) rfl rfl ?_,
    Json.named_of_toName ⟨some e.kind, some e.payload, none⟩
      (Json.toName_next ("payload", e.payload) _ _) rfl rfl ?_,
    Json.named_of_toName ⟨some e.kind, some e.payload, some e.track⟩
      (Json.toName_next ("trackType", .string e.track) _ _) rfl rfl ?_, stops]
  · simp
  · exact reads_into (reads_wantString e.track) fun t => ⟨some e.kind, some e.payload, some t⟩
  · exact reads_into (Json.reads_print shaped whole (Json.parted_cons (by decide) _))
      fun v => ⟨some e.kind, some v, none⟩
  · exact reads_into (reads_kind e.kind) fun k => ⟨some k, none, none⟩

/-- Inside the braces the envelope is read back. -/
theorem insideObject_inner {e : Envelope} (shaped : e.payload.Shaped payloadDepth)
    (whole : e.payload.isWhole = true) (place : Json.Position) :
    shape.insideObject ⟨e.inner ++ ['\x7d'], place⟩ =
      .ok (e, ⟨['\x7d'], e.inner.foldl Json.Position.step place⟩) := by
  have isRecord := named_inner shaped whole e.length_inner place
  unfold Json.Shape.insideObject
  show (Json.named members _ true {} _ >>= fun (draft, c) => _) = _
  rw [isRecord]
  rfl

/-- **An envelope is read back from its text.** -/
theorem decode_wireText {e : Envelope} (shaped : e.payload.Shaped payloadDepth)
    (whole : e.payload.isWhole = true) : decode e.wireText = .ok e := by
  have isRecord := insideObject_inner shaped whole (Json.Position.start.step '\x7b')
  have isEnvelope : shape.read ⟨'\x7b' :: (e.inner ++ ['\x7d']), .start⟩ = .ok (e, ⟨[],
      (e.inner.foldl Json.Position.step (Json.Position.start.step '\x7b')).step '\x7d'⟩) := by
    show Json.enclose .object (shape.insideObject
      ⟨e.inner ++ ['\x7d'], Json.Position.start.step '\x7b'⟩) = _
    rw [isRecord]
    rfl
  unfold decode Json.decode Json.Cursor.start
  rw [toList_wireText, isEnvelope]
  rfl

/-- A text is an envelope if it decodes. What a failure is called does not matter here. -/
theorem ofText_eq_ok_iff {t : String} {e : Envelope} : ofText t = .ok e ↔ decode t = .ok e := by
  unfold ofText
  cases decode t with
  | ok x => simp [Except.mapError]
  | error flaw => simp [Except.mapError]

/-- **Encoding undoes decoding, and decoding encoding.** Whatever text an envelope was read
from, provided no number in the payload was stored as a double, the frame that carries the
envelope has a text; the same envelope is read from that text, and nothing else is; and
the envelope read from it has that text again. -/
theorem text_round_trip (t : String) (e : Envelope) (read : ofText t = .ok e)
    (whole : e.payload.isWhole = true) :
    ∃ w, (Frame.envelope e).wireText? = some w ∧ ofText w = .ok e ∧
      ∀ e', ofText w = .ok e' → (Frame.envelope e').wireText? = some w := by
  have shaped := shaped_decode (ofText_eq_ok_iff.mp read)
  have back : ofText e.wireText = .ok e := ofText_eq_ok_iff.mpr (decode_wireText shaped whole)
  refine ⟨e.wireText, rfl, back, ?_⟩
  intro e' again
  rw [back] at again
  cases again
  rfl

/-- A text in none of the written order: a kind in the form of an object, a name twice in the
payload and a name that means nothing, strings with escapes of each sort, a surrogate pair
among them, and the least whole number there is. -/
def crowded : String :=
  " \x7b\"trackType\": \"\\u00e9\\ud83d\\ude00\\/\\u0001\", \"payload\":\x7b\"b\":18446744073709551615," ++
    "\"a\":[true,-9223372036854775808],\"b\":\"\\\"\\n\"\x7d,\"x\":1.5,\"type\":\x7b\"offer\":null\x7d\x7d"

/-- The same as it is sent on: the names in order, of the two values of `b` the last. -/
def ordered : String :=
  "\x7b\"type\":\"offer\",\"payload\":\x7b\"a\":[true,-9223372036854775808],\"b\":\"\\\"\\n\"\x7d," ++
    "\"trackType\":\"é😀/\\u0001\"\x7d"

/-- The text and what is written for it differ, and stand for one envelope. -/
theorem text_round_trip_crowded :
    ∃ e, ofText crowded = .ok e ∧ e.payload.isWhole = true ∧ e.wireText = ordered ∧
      ∃ w, (Frame.envelope e).wireText? = some w ∧ ofText w = .ok e ∧
        ∀ e', ofText w = .ok e' → (Frame.envelope e').wireText? = some w := by
  have good : ((ofText crowded).toOption.any fun e =>
      e.payload.isWhole && e.wireText == ordered) = true := by decide +kernel
  cases read : ofText crowded with
  | error fault =>
    rw [read] at good
    cases good
  | ok e =>
    obtain ⟨whole, text⟩ : e.payload.isWhole = true ∧ e.wireText = ordered := by
      simpa [read, Except.toOption] using good
    exact ⟨e, rfl, whole, text, text_round_trip crowded e read whole⟩

end Envelope
end Rendezvous
