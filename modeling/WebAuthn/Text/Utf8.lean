import WebAuthn.Bytes

/-!
# Text as bytes

* `Utf8.encode` — the UTF-8 bytes of a text;
* `Utf8.decode?` — the text that a byte string encodes, if it encodes one. Overlong forms, surrogates and
  anything past U+10FFFF encode no text. `Utf8.decode?_eq_some_iff` states the two as one equation.
-/

namespace WebAuthn.Utf8

def encode (text : String) : Bytes :=
  text.toByteArray.data.toList

def decode? (bytes : Bytes) : Option String :=
  String.fromUTF8? ⟨bytes.toArray⟩

theorem encode_injective {a b : String} (h : encode a = encode b) : a = b := by
  have hd : a.toByteArray.data = b.toByteArray.data := Array.toList_inj.1 h
  have ha : a.toByteArray = b.toByteArray := by
    cases ha : a.toByteArray
    cases hb : b.toByteArray
    simp_all
  exact String.toByteArray_inj.1 ha

theorem decode?_eq_some_iff {bytes : Bytes} {text : String} :
    decode? bytes = some text ↔ bytes = encode text := by
  unfold decode? encode String.fromUTF8?
  constructor
  · split
    · intro h
      cases h
      simp [String.fromUTF8]
    · simp
  · rintro rfl
    have : (⟨text.toByteArray.data.toList.toArray⟩ : ByteArray) = text.toByteArray := by simp
    rw [this, dif_pos text.isValidUTF8]
    rfl

end WebAuthn.Utf8
