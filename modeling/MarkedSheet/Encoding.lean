/-!
# Bytes of a text

Files and documents hold bytes.  Those of a text are its UTF-8 form, and other bytes are no text.
-/

namespace MarkedSheet

/-- What a file or a document holds. -/
abbrev Bytes := Array UInt8

namespace Bytes

def ofText (s : String) : Bytes :=
  s.toUTF8.data

/-- The text that has these bytes, if any has. -/
def text? (b : Bytes) : Option String :=
  String.fromUTF8? ⟨b⟩

theorem text?_ofText (s : String) : text? (ofText s) = some s := by
  have htext : String.fromUTF8? s.toUTF8 = some s := by
    rw [String.fromUTF8?, String.toUTF8_eq_toByteArray, dif_pos s.isValidUTF8]
    rfl
  exact htext

end Bytes

end MarkedSheet
