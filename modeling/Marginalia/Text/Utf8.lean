import Marginalia.Text

/-!
# Texts as bytes

## Main definitions

* `Text.encode` — the bytes of a text in UTF-8.
* `Text.decode?` — the text of bytes, or `none` if they are not UTF-8.

## Main results

* `Text.decode?_encode` — the bytes of a text decode to that text.
-/

namespace Marginalia
namespace Text

/-- The bytes of a text in UTF-8. -/
def encode (t : Text) : ByteArray := (String.ofList t).toUTF8

/-- The text that bytes are the UTF-8 of.  Forms longer than necessary, surrogates and
incomplete characters are not UTF-8. -/
def decode? (bytes : ByteArray) : Option Text := bytes.utf8Decode?.map Array.toList

theorem decode?_encode (t : Text) : decode? (encode t) = some t := by
  simp [decode?, encode]

end Text
end Marginalia
