set_option autoImplicit false

/-! # Byte strings and the text they encode

Requests, responses and frames travel as byte strings. Text is UTF-8: `Bytes.ofString` encodes,
`Bytes.text?` decodes and refuses whatever is not well-formed (`Bytes.text?_ofString`). -/

namespace SessionHub

/-- A byte string. -/
abbrev Bytes := List UInt8

namespace Bytes

/-- The UTF-8 encoding of `s`. -/
def ofString (s : String) : Bytes :=
  s.toByteArray.data.toList

/-- The text that `bs` encodes, if `bs` is well-formed UTF-8. -/
def text? (bs : Bytes) : Option String :=
  String.fromUTF8? ⟨bs.toArray⟩

/-- The single byte of an ASCII character. -/
def ascii (c : Char) : UInt8 :=
  c.toUInt8

theorem text?_ofString (s : String) : text? (ofString s) = some s := by
  have h : (⟨s.toByteArray.data.toList.toArray⟩ : ByteArray) = s.toByteArray := by simp
  simp [text?, ofString, String.fromUTF8?, String.fromUTF8, s.isValidUTF8]

theorem ofString_append (s t : String) : ofString (s ++ t) = ofString s ++ ofString t := by
  simp [ofString]

end Bytes

end SessionHub
