import Mathlib.Algebra.Group.Nat.Defs
import Mathlib.Data.String.Basic
import RoutingData.Bytes

/-!
# Texts and their bytes

A text is read back from its bytes (`text?_ofText`), so different texts have different bytes. The
library keeps texts as arrays of bytes and lists them by counting up, which is related to the list
of the array first. Texts are ordered as their bytes are (`ofText_lt_ofText_iff`): where two texts
differ for the first time, the bytes of the smaller character are smaller.
-/

namespace RoutingData.Bytes

variable {bs cs : Bytes} {s : String}

/-- There are no more bytes than 64 bits can address. Every file and every buffer is like that. -/
def Addressable (bs : Bytes) : Prop := bs.length < 2 ^ 64

instance (bs : Bytes) : Decidable bs.Addressable := inferInstanceAs (Decidable (_ < _))

/-- Bytes that stand in other bytes, one after the other, are not more. -/
theorem Addressable.of_sublist (h : cs.Addressable) (hsub : bs.Sublist cs) : bs.Addressable :=
  Nat.lt_of_le_of_lt hsub.length_le h

/-- Listing the bytes of an array from an index on adds those from there to what is listed. -/
theorem toList_loop_eq (a : ByteArray) (i : Nat) (listed : List UInt8) :
    ByteArray.toList.loop a i listed = listed.reverse ++ a.data.toList.drop i := by
  induction i, listed using ByteArray.toList.loop.induct a with
  | case1 i listed hlt ih =>
    have hi : i < a.data.toList.length := by simpa using hlt
    have hbyte : a.get! i = a.data.toList[i] := by
      rw [Array.getElem_toList]
      exact getElem!_pos a.data i (by simpa using hi)
    rw [ByteArray.toList.loop, if_pos hlt, ih, List.drop_eq_getElem_cons hi, hbyte]
    simp
  | case2 i listed hge =>
    have hi : a.data.toList.length ≤ i := by simpa using hge
    rw [ByteArray.toList.loop, if_neg hge, List.drop_eq_nil_of_le hi, List.append_nil]

/-- The bytes of a text are those that it is stored as. -/
theorem ofText_eq (s : String) : ofText s = s.toUTF8.data.toList := by
  rw [ofText, ByteArray.toList, toList_loop_eq]
  simp

/-- A text is read back from its bytes. -/
theorem text?_ofText (s : String) : text? (ofText s) = some s := by
  rw [text?, ofText_eq, String.fromUTF8?]
  exact dif_pos s.isValidUTF8

/-- Only the empty text has no bytes. -/
theorem eq_empty_of_ofText_eq_nil (h : ofText s = []) : s = "" := by
  have hempty : ofText "" = [] := ofText_eq ""
  rw [← hempty] at h
  have hs := text?_ofText s
  rw [h, text?_ofText] at hs
  exact (Option.some.inj hs).symm

/-! ### Order -/

/-- The bytes of a text are those of its characters. -/
theorem ofText_eq_flatMap (s : String) : ofText s = s.toList.flatMap String.utf8EncodeChar := by
  have hbytes : (String.ofList s.toList).toUTF8 =
      (s.toList.flatMap String.utf8EncodeChar).toByteArray := by
    rw [String.toUTF8_eq_toByteArray, String.toByteArray_ofList, List.utf8Encode]
  rw [String.ofList_toList] at hbytes
  rw [ofText_eq, hbytes]
  simp

/-- Bytes that start with those of a smaller character are smaller, however they go on. -/
theorem utf8EncodeChar_append_lt {c d : Char} (h : c < d) (bs cs : Bytes) :
    String.utf8EncodeChar c ++ bs < String.utf8EncodeChar d ++ cs := by
  have hcd : c.val.toNat < d.val.toNat := h
  have hd : d.val.toNat < 1114112 := by
    have hvalid := d.valid
    rw [UInt32.isValidChar, Nat.isValidChar] at hvalid
    omega
  -- a byte holds one digit in base 64, and the number of digits shows in the first byte
  have hdigits : ∀ n : ℕ, n / 4096 = n / 64 / 64 ∧ n / 262144 = n / 64 / 64 / 64 := fun n => by
    simp [Nat.div_div_eq_div_mul]
  rw [String.utf8EncodeChar, String.utf8EncodeChar]
  generalize c.val.toNat = m at hcd ⊢
  generalize d.val.toNat = n at hcd hd ⊢
  split_ifs <;>
    simp only [hdigits, List.cons_append, List.nil_append, List.cons_lt_cons_iff,
      UInt8.lt_iff_toNat_lt, ← UInt8.toNat_inj, UInt8.toNat_ofNat'] <;>
    omega

/-- The bytes of a smaller text are smaller. -/
theorem ofText_lt_ofText {s t : String} (h : s < t) : ofText s < ofText t := by
  have hlex : List.Lex (· < ·) s.toList t.toList := String.lt_iff_toList_lt.1 h
  rw [ofText_eq_flatMap, ofText_eq_flatMap]
  generalize s.toList = cs, t.toList = ds at hlex ⊢
  induction hlex with
  | nil =>
    rw [List.flatMap_nil, List.flatMap_cons]
    obtain ⟨b, bs, hbs⟩ := List.exists_cons_of_ne_nil String.utf8EncodeChar_ne_nil
    rw [hbs]
    exact List.nil_lt_cons _ _
  | cons _ ih => exact List.append_left_lt ih
  | rel hcd => exact utf8EncodeChar_append_lt hcd _ _

/-- Texts are ordered as their bytes are. -/
theorem ofText_lt_ofText_iff {s t : String} : ofText s < ofText t ↔ s < t := by
  constructor
  · intro h
    rcases lt_trichotomy s t with hst | rfl | hts
    · exact hst
    · exact absurd h (List.lt_irrefl _)
    · exact absurd h (List.lt_asymm (ofText_lt_ofText hts))
  · exact ofText_lt_ofText

end RoutingData.Bytes
