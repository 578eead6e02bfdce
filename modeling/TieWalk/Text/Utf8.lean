/-!
# Decoding UTF-8

Bytes are decoded one character at a time. Where no character starts, decoding stops, and the number of bytes before
that place says how far the text was good.
-/

namespace TieWalk.Text

/-- The character that bytes start with; no character takes more than four. -/
def firstChar? (bytes : List UInt8) : Option Char := (bytes.take 4).toByteArray.utf8DecodeChar? 0

/-- The characters that bytes encode, or the number of bytes before the first that starts none. -/
def decodeChars : List UInt8 → Except Nat (List Char)
  | [] => .ok []
  | b :: rest =>
    match firstChar? (b :: rest) with
    | none => .error 0
    | some c =>
      match decodeChars (rest.drop (c.utf8Size - 1)) with
      | .ok cs => .ok (c :: cs)
      | .error n => .error (c.utf8Size + n)
  termination_by bytes => bytes.length
  decreasing_by simp only [List.length_drop, List.length_cons]; omega

/-- The text that bytes encode, or how far it was good. -/
def decodeUtf8 (bytes : List UInt8) : Except Nat String :=
  match decodeChars bytes with
  | .ok cs => .ok (String.ofList cs)
  | .error n => .error n

end TieWalk.Text
