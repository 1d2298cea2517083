import Mathlib.Data.String.Basic
import Mathlib.Tactic.SplitIfs

/-!
# The order of texts

Texts are compared character by character, and characters by their code points. Comparing the
bytes of their UTF-8 form comes to the same (`lt_iff_utf8_lt`): of two characters the one with
the smaller code point has the smaller bytes, at the first byte in which they differ, so
neither form begins with the other.
-/

namespace Rendezvous.Text

/-- The bytes of a text in UTF-8. -/
def utf8 (s : String) : List UInt8 := s.toUTF8.data.toList

/-- The bytes of a text are those of its characters, one after the other. -/
theorem utf8_eq (s : String) : utf8 s = s.toList.flatMap String.utf8EncodeChar := by
  have bytes : (String.ofList s.toList).toByteArray = s.toList.utf8Encode :=
    String.toByteArray_ofList
  rw [String.ofList_toList] at bytes
  rw [utf8, String.toUTF8_eq_toByteArray, bytes]
  exact List.toList_data_toByteArray

/-- A smaller character has smaller bytes, whatever follows. -/
theorem encode_lt {c d : Char} (before : c < d) (rest rest' : List UInt8) :
    String.utf8EncodeChar c ++ rest < String.utf8EncodeChar d ++ rest' := by
  have smaller : c.val.toNat < d.val.toNat := before
  have bound : d.val.toNat < 0x110000 := by
    rcases d.valid with low | high
    · show d.val.toNat < _
      omega
    · exact high.2
  unfold String.utf8EncodeChar
  generalize c.val.toNat = v at *
  generalize d.val.toNat = w at *
  dsimp only
  -- A longer form has a larger first byte; forms of one length are numbers to the base 64,
  -- with their highest digit first.
  split_ifs <;>
    simp only [List.cons_append, List.nil_append, List.cons_lt_cons_iff, UInt8.lt_iff_toNat_lt,
      UInt8.toNat_ofNat', ← UInt8.toNat_inj] <;>
    simp (disch := omega) only [Nat.mod_eq_of_lt] <;> omega

/-- Characters that come first have bytes that come first. -/
theorem flatMap_encode_lt {cs ds : List Char} (before : cs < ds) :
    cs.flatMap String.utf8EncodeChar < ds.flatMap String.utf8EncodeChar := by
  induction cs generalizing ds with
  | nil =>
    cases ds with
    | nil => exact absurd before (List.lt_irrefl [])
    | cons d rest =>
      have bytes : d.utf8Size = (String.utf8EncodeChar d).length :=
        (String.length_utf8EncodeChar d).symm
      rw [List.flatMap_nil, List.flatMap_cons]
      cases form : String.utf8EncodeChar d with
      | nil =>
        rw [form] at bytes
        exact absurd d.utf8Size_pos (by rw [bytes]; exact Nat.lt_irrefl 0)
      | cons b more => exact List.nil_lt_cons ..
  | cons c rest ih =>
    cases ds with
    | nil => exact absurd before (List.not_lt_nil _)
    | cons d rest' =>
      rw [List.flatMap_cons, List.flatMap_cons]
      rcases List.cons_lt_cons_iff.mp before with first | ⟨rfl, later⟩
      · -- No encoding begins another, so the first difference decides.
        exact encode_lt first ..
      · exact List.append_left_lt (ih later)

/-- **Texts are in the order of their bytes.** -/
theorem lt_iff_utf8_lt {s t : String} : s < t ↔ utf8 s < utf8 t := by
  have forward : ∀ {s t : String}, s < t → utf8 s < utf8 t := by
    intro s t before
    rw [utf8_eq, utf8_eq]
    exact flatMap_encode_lt before
  refine ⟨forward, fun bytes => ?_⟩
  rcases lt_trichotomy s t with before | rfl | after
  · exact before
  · exact absurd bytes (List.lt_irrefl _)
  · exact absurd (forward after) (List.lt_asymm bytes)

end Rendezvous.Text
