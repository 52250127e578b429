import SessionHub.Json.Writer
import SessionHub.Proofs.Json.Digits

set_option autoImplicit false

/-! # What is written is text

A byte string is text if it encodes a string. Everything that is written for a JSON value is text,
so that the string `Json.text` has exactly the bytes that are written (`Json.ofString_text`). -/

namespace SessionHub

namespace Bytes

/-- A string is encoded character by character. -/
theorem ofString_eq (s : String) : ofString s = s.toList.flatMap String.utf8EncodeChar := by
  have encoded : s.toByteArray = (s.toList.flatMap String.utf8EncodeChar).toByteArray := by
    rw [← String.utf8Encode_toList, List.utf8Encode]
  simp [ofString, encoded]

/-- A byte below 128 encodes a character of its own. -/
theorem utf8EncodeChar_ofNat {n : Nat} (hn : n < 128) :
    String.utf8EncodeChar (Char.ofNat n) = [UInt8.ofNat n] := by
  revert n
  decide

/-- Whether a byte string encodes a string. -/
def IsText (bs : Bytes) : Prop :=
  ∃ s, bs = ofString s

theorem isText_ofString (s : String) : IsText (ofString s) :=
  ⟨s, rfl⟩

theorem isText_nil : IsText [] :=
  ⟨"", rfl⟩

theorem IsText.append {bs cs : Bytes} (hb : IsText bs) (hc : IsText cs) : IsText (bs ++ cs) := by
  obtain ⟨s, rfl⟩ := hb
  obtain ⟨t, rfl⟩ := hc
  exact ⟨s ++ t, (ofString_append s t).symm⟩

theorem isText_utf8EncodeChar (c : Char) : IsText (String.utf8EncodeChar c) :=
  ⟨String.ofList [c], by simp [ofString_eq]⟩

theorem IsText.cons {b : UInt8} {bs : Bytes} (hb : b < 128) (hs : IsText bs) : IsText (b :: bs) := by
  have one := isText_utf8EncodeChar (Char.ofNat b.toNat)
  rw [utf8EncodeChar_ofNat (UInt8.lt_iff_toNat_lt.mp hb), UInt8.ofNat_toNat] at one
  exact one.append hs

theorem isText_of_ascii {bs : Bytes} (h : ∀ b ∈ bs, b < 128) : IsText bs := by
  induction bs with
  | nil => exact isText_nil
  | cons b bs ih =>
    exact (ih fun c hc => h c (List.mem_cons_of_mem b hc)).cons (h b List.mem_cons_self)

theorem isText_flatMap {α : Type} (f : α → Bytes) (l : List α) (h : ∀ x ∈ l, IsText (f x)) :
    IsText (l.flatMap f) := by
  induction l with
  | nil => exact isText_nil
  | cons x l ih =>
    rw [List.flatMap_cons]
    exact (h x List.mem_cons_self).append (ih fun y hy => h y (List.mem_cons_of_mem x hy))

end Bytes

namespace Json

open Bytes (IsText isText_of_ascii isText_ofString)

/-! ## Scalars -/

theorem isText_digits (n : Nat) : IsText (Digits.write n) :=
  isText_of_ascii fun _ hb => Digits.lt_of_isDigit (Digits.isDigit_of_mem_write hb)

/-- The text of a decimal has digits, a point and the letter of an exponent in it, all of ASCII. -/
theorem Number.isText_writeDecimal (d : Decimal) : IsText (Number.writeDecimal d) := by
  have digit : ∀ {n : Nat}, ∀ b ∈ Digits.write n, b < 128 :=
    fun b hb => Digits.lt_of_isDigit (Digits.isDigit_of_mem_write hb)
  have begins : ∀ {n m : Nat}, ∀ b ∈ (Digits.write n).take m, b < 128 :=
    fun b hb => digit b (List.mem_of_mem_take hb)
  have ends : ∀ {n m : Nat}, ∀ b ∈ (Digits.write n).drop m, b < 128 :=
    fun b hb => digit b (List.mem_of_mem_drop hb)
  have zeros : ∀ {m : Nat}, ∀ b ∈ List.replicate m (Bytes.ascii '0'), b < 128 := by
    intro m b hb
    rw [List.eq_of_mem_replicate hb]
    decide
  have single : ∀ {c : Char}, c = '.' ∨ c = '0' ∨ c = 'e' ∨ c = '-' ∨ c = '+' →
      Bytes.ascii c < 128 := by
    rintro c (rfl | rfl | rfl | rfl | rfl) <;> decide
  apply isText_of_ascii
  intro b hb
  simp only [Number.writeDecimal] at hb
  split at hb
  · split at hb
    · simp only [List.mem_cons, List.cons_append, List.mem_append] at hb
      rcases hb with rfl | rfl | hb | hb
      · exact single (by simp)
      · exact single (by simp)
      · exact zeros b hb
      · exact digit b hb
    · split at hb
      · simp only [List.mem_append, List.mem_cons, List.not_mem_nil, or_false] at hb
        rcases hb with (hb | hb) | rfl | rfl
        · exact digit b hb
        · exact zeros b hb
        · exact single (by simp)
        · exact single (by simp)
      · simp only [List.mem_append, List.mem_cons] at hb
        rcases hb with hb | rfl | hb
        · exact begins b hb
        · exact single (by simp)
        · exact ends b hb
  · simp only [List.mem_append, List.mem_cons] at hb
    rcases hb with (hb | hb) | rfl | rfl | hb
    · exact begins b hb
    · split at hb
      · cases hb
      · rcases List.mem_cons.mp hb with rfl | hb
        · exact single (by simp)
        · exact ends b hb
    · exact single (by simp)
    · split <;> exact single (by simp)
    · exact digit b hb

theorem Number.isText_write (n : Number) : IsText n.write := by
  cases n with
  | natural n => exact isText_digits n.toNat
  | negative m => exact (isText_digits m.val).cons (by decide)
  | float x =>
    simp only [Number.write, Number.writeFloat]
    split
    · refine IsText.append ?_ ?_
      · split
        · exact Bytes.isText_nil.cons (by decide)
        · exact Bytes.isText_nil
      · split
        · exact isText_ofString "0.0"
        · exact Number.isText_writeDecimal _
    · exact isText_ofString "null"

theorem isText_escape (c : Char) : IsText (escape c) := by
  unfold escape
  split
  iterate 7 exact isText_ofString _
  split
  · next low =>
    have hex : ∀ n, n < 32 → hexDigit (n / 16) < 128 ∧ hexDigit (n % 16) < 128 := by decide
    obtain ⟨high, low⟩ := hex c.toNat low
    exact (isText_ofString "\\u00").append ((Bytes.isText_nil.cons low).cons high)
  · exact Bytes.isText_utf8EncodeChar c

theorem isText_writeString (s : String) : IsText (writeString s) :=
  IsText.cons (by decide)
    ((Bytes.isText_flatMap _ _ fun c _ => isText_escape c).append (isText_ofString "\""))

/-! ## Values -/

mutual

theorem isText_write : ∀ v : Json, IsText v.write
  | null => isText_ofString "null"
  | bool true => isText_ofString "true"
  | bool false => isText_ofString "false"
  | number n => n.isText_write
  | string s => isText_writeString s
  | array elements => (isText_writeElements elements).cons (by decide)
  | object members => (isText_writeMembers members).cons (by decide)

theorem isText_writeElements : ∀ elements : List Json, IsText (writeElements elements)
  | [] => isText_ofString "]"
  | v :: rest => (isText_write v).append (isText_writeMoreElements rest)

theorem isText_writeMoreElements : ∀ elements : List Json, IsText (writeMoreElements elements)
  | [] => isText_ofString "]"
  | v :: rest => ((isText_write v).append (isText_writeMoreElements rest)).cons (by decide)

theorem isText_writeMembers : ∀ members : List (String × Json), IsText (writeMembers members)
  | [] => isText_ofString "\x7d"
  | (name, v) :: rest =>
    (isText_writeString name).append
      (((isText_write v).append (isText_writeMoreMembers rest)).cons (by decide))

theorem isText_writeMoreMembers : ∀ members : List (String × Json), IsText (writeMoreMembers members)
  | [] => isText_ofString "\x7d"
  | (name, v) :: rest =>
    IsText.cons (by decide) ((isText_writeString name).append
      (((isText_write v).append (isText_writeMoreMembers rest)).cons (by decide)))

end

end Json

end SessionHub
