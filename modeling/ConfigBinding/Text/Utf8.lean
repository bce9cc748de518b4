/-!
# UTF-8

The bytes of a text and, where bytes are one, the text of bytes.
-/

set_option autoImplicit false

namespace ConfigBinding.Text

/-- The bytes of a text in UTF-8. -/
def bytes (s : String) : List UInt8 :=
  s.toList.flatMap String.utf8EncodeChar

/-- The number of bytes of a list of characters. -/
def byteLength (cs : List Char) : Nat :=
  cs.foldr (fun c n => c.utf8Size + n) 0

theorem length_bytes (s : String) : (bytes s).length = byteLength s.toList := by
  have key : ∀ cs : List Char, (cs.flatMap String.utf8EncodeChar).length = byteLength cs := by
    intro cs
    induction cs with
    | nil => rfl
    | cons c cs ih => simp [byteLength, ih]
  exact key s.toList

/-- The text that bytes encode, if they are valid UTF-8. -/
def ofBytes? (bs : List UInt8) : Option String :=
  String.fromUTF8? ⟨bs.toArray⟩

theorem toByteArray_bytes (s : String) : (⟨(bytes s).toArray⟩ : ByteArray) = s.toByteArray := by
  rw [← String.utf8Encode_toList, List.utf8Encode, bytes]
  exact ByteArray.ext List.data_toByteArray.symm

/-- Bytes are read as the one text that has them. -/
theorem ofBytes?_eq_some_iff {bs : List UInt8} {s : String} :
    ofBytes? bs = some s ↔ bytes s = bs := by
  unfold ofBytes? String.fromUTF8?
  constructor
  · intro h
    split at h
    · obtain rfl := Option.some.inj h
      exact congrArg (fun b : ByteArray => b.data.toList) (toByteArray_bytes _)
    · cases h
  · rintro rfl
    rw [toByteArray_bytes, dif_pos s.isValidUTF8]
    rfl

/-- The bytes of a text encode it. -/
theorem ofBytes?_bytes (s : String) : ofBytes? (bytes s) = some s :=
  ofBytes?_eq_some_iff.mpr rfl

end ConfigBinding.Text
