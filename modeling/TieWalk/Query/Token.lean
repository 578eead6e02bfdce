import TieWalk.Text.Letter

/-!
# Tokens of the query language

A query is a run of arrows, brackets, commas, numbers and words, with spaces, tabs and line ends between them where they
please. A number is a longest run of ASCII digits, a word a letter or underscore with the longest run of letters,
numerals, underscores and dots after it. `scan` cuts a text into tokens and keeps the byte offset of each; it fails at
the first character at which no token starts.
-/

namespace TieWalk

/-- A token of the query language. -/
inductive Token where
  | arrow
  | opening
  | closing
  | comma
  | word (text : String)
  | number (digits : String)
  deriving DecidableEq, Repr

/-- A token and the byte offset at which it starts. -/
structure PlacedToken where
  token : Token
  offset : Nat
  deriving DecidableEq, Repr

namespace Token

/-- The text that a token stands for. -/
def text : Token → String
  | .arrow => "->"
  | .opening => "["
  | .closing => "]"
  | .comma => ","
  | .word text => text
  | .number digits => digits

/-- A token as messages show it. -/
def shown (t : Token) : String := "'" ++ t.text ++ "'"

/-- What may stand between tokens: space, tab, carriage return and line feed. -/
def isSpacing (c : Char) : Bool := c == ' ' || c == '\t' || c == '\r' || c == '\n'

/-- What a word starts with. -/
def isWordStart (c : Char) : Bool := Text.isLetter c || c == '_'

/-- What a word goes on with. -/
def isWordPart (c : Char) : Bool := Text.isLetterOrNumeral c || c == '_' || c == '.'

/-- The number of bytes that characters take in UTF-8. -/
def width (cs : List Char) : Nat := cs.foldr (fun c n => c.utf8Size + n) 0

/-- The token at the start of a text, and the rest of the text. -/
def first? : List Char → Option (Token × List Char)
  | '-' :: '>' :: rest => some (.arrow, rest)
  | '[' :: rest => some (.opening, rest)
  | ']' :: rest => some (.closing, rest)
  | ',' :: rest => some (.comma, rest)
  | c :: rest =>
    if c.isDigit then
      some (.number (String.ofList (c :: rest.takeWhile Char.isDigit)), rest.dropWhile Char.isDigit)
    else if isWordStart c then
      some (.word (String.ofList (c :: rest.takeWhile isWordPart)), rest.dropWhile isWordPart)
    else none
  | [] => none

theorem length_dropWhile_le {α : Type} (p : α → Bool) (l : List α) : (l.dropWhile p).length ≤ l.length :=
  (List.dropWhile_sublist p).length_le

/-- A token takes at least one character. -/
theorem length_lt_of_first? {cs rest : List Char} {t : Token} (h : first? cs = some (t, rest)) :
    rest.length < cs.length := by
  unfold first? at h
  split at h <;> grind [length_dropWhile_le]

/-- A place at which no token starts. -/
structure Stray where
  offset : Nat
  found : Char
  deriving DecidableEq, Repr

/-- The tokens of a text that starts at byte `offset` of the query. -/
def scan (offset : Nat) (cs : List Char) : Except Stray (List PlacedToken) :=
  match _hcs : cs.dropWhile isSpacing with
  | [] => .ok []
  | c :: after =>
    let start := offset + width (cs.takeWhile isSpacing)
    match _ht : first? (c :: after) with
    | none => .error ⟨start, c⟩
    | some (t, rest) =>
      match scan (start + width t.text.toList) rest with
      | .error stray => .error stray
      | .ok tokens => .ok (⟨t, start⟩ :: tokens)
termination_by cs.length
decreasing_by
  have h1 := length_dropWhile_le isSpacing cs
  have h2 := length_lt_of_first? _ht
  rw [_hcs] at h1
  omega

end Token

end TieWalk
