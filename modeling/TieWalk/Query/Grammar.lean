import TieWalk.Query.Fault
import TieWalk.Text.Blank
import TieWalk.Text.Decimal

/-!
# The grammar of queries

    query     := variables '->' hops '->' anchor | anchor '->' hops '->' variables
    hops      := hop ('->' hop)*
    variables := '[' ']' | '[' word (',' word)* ']'
    hop       := word '[' ('all' | number (',' number)*) ']'
    anchor    := the word 'sample', in any case, with no '[' after it

Each function reads the tokens at the head of a list and returns the rest. `stop` is the length of the query in bytes,
which stands for the offset of what is no longer there. `WrittenPath.ofText` reads a whole query, `WrittenHop.ofText` a
hop by itself, whose brackets may then be missing.
-/

namespace TieWalk

namespace Grammar

/-- The offset of the next token, or of the end. -/
def offset (stop : Nat) : List PlacedToken → Nat
  | [] => stop
  | t :: _ => t.offset

/-- The refusal of whatever comes next. -/
def refusal (stop : Nat) (what : Expectation) (ts : List PlacedToken) : QueryFault :=
  .malformed (offset stop ts) (.expected what (ts.head?.map PlacedToken.token))

/-- The next token is an opening bracket. -/
def opensBracket : List PlacedToken → Bool
  | ⟨.opening, _⟩ :: _ => true
  | _ => false

/-- One or more variable names, to the bracket that closes them. -/
def variableNames (stop : Nat) : List PlacedToken → Except QueryFault (List String × List PlacedToken)
  | ⟨.word name, _⟩ :: ⟨.comma, _⟩ :: rest =>
    match variableNames stop rest with
    | .error e => .error e
    | .ok (names, rest) => .ok (name :: names, rest)
  | ⟨.word name, _⟩ :: ⟨.closing, _⟩ :: rest => .ok ([name], rest)
  | ⟨.word _, _⟩ :: rest => .error (refusal stop .commaOrClosing rest)
  | ts => .error (refusal stop .variableName ts)

/-- A variable list after its opening bracket. -/
def vars (stop : Nat) : List PlacedToken → Except QueryFault (List String × List PlacedToken)
  | ⟨.closing, _⟩ :: rest => .ok ([], rest)
  | ts => variableNames stop ts

/-- The code that digits spell, if it is one. -/
def code? (digits : String) : Option Code :=
  let n := Text.natOfDigits digits.toList
  if n < codeBound then some (UInt32.ofNat n) else none

/-- One or more codes. -/
def codes (stop : Nat) : List PlacedToken → Except QueryFault (List Code × List PlacedToken)
  | ⟨.number digits, position⟩ :: rest =>
    match code? digits with
    | none => .error (.malformed position (.codeOutOfRange digits))
    | some code =>
      match rest with
      | ⟨.comma, _⟩ :: rest =>
        match codes stop rest with
        | .error e => .error e
        | .ok (more, rest) => .ok (code :: more, rest)
      | rest => .ok ([code], rest)
  | ts => .error (refusal stop .code ts)

/-- What stands between the brackets of a hop. -/
def selection (stop : Nat) : List PlacedToken → Except QueryFault (Selection × List PlacedToken)
  | ⟨.word w, p⟩ :: rest =>
    if Text.sameIgnoringCase w "all" then .ok (.all, rest) else .error (refusal stop .selection (⟨.word w, p⟩ :: rest))
  | ⟨.number digits, p⟩ :: rest =>
    match codes stop (⟨.number digits, p⟩ :: rest) with
    | .error e => .error e
    | .ok (codes, rest) => .ok (.only (AscSet.ofList codes), rest)
  | ts => .error (refusal stop .selection ts)

/-- A bracketed selection after a context's name. -/
def bracketed (stop : Nat) : List PlacedToken → Except QueryFault (Selection × List PlacedToken)
  | ⟨.opening, _⟩ :: rest =>
    match selection stop rest with
    | .error e => .error e
    | .ok (codes, ⟨.closing, _⟩ :: rest) => .ok (codes, rest)
    | .ok (_, rest) => .error (refusal stop .closingAfterCodes rest)
  | ts => .error (refusal stop .openingAfterContext ts)

/-- A hop with its brackets. -/
def hop (stop : Nat) : List PlacedToken → Except QueryFault (WrittenHop × List PlacedToken)
  | ⟨.word name, position⟩ :: rest =>
    match bracketed stop rest with
    | .error e => .error e
    | .ok (codes, rest) => .ok (⟨name, codes, position⟩, rest)
  | ts => .error (refusal stop .contextName ts)

/-- A segment and the offset at which it starts. -/
def segment (stop : Nat) : List PlacedToken → Except QueryFault ((Nat × Segment) × List PlacedToken)
  | ⟨.opening, position⟩ :: rest =>
    match vars stop rest with
    | .error e => .error e
    | .ok (names, rest) => .ok ((position, .vars names), rest)
  | ⟨.word w, position⟩ :: rest =>
    if Text.sameIgnoringCase w anchor && !opensBracket rest then .ok ((position, .anchor), rest)
    else
      match hop stop (⟨.word w, position⟩ :: rest) with
      | .error e => .error e
      | .ok (spec, rest) => .ok ((position, .hop spec), rest)
  | ⟨.arrow, position⟩ :: _ => .error (.malformed position .emptySegment)
  | ts => .error (refusal stop .segment ts)

theorem length_variableNames {stop : Nat} {ts rest : List PlacedToken} {names : List String}
    (h : variableNames stop ts = .ok (names, rest)) : rest.length < ts.length := by
  fun_induction variableNames stop ts generalizing names rest <;> grind

theorem length_codes {stop : Nat} {ts rest : List PlacedToken} {cs : List Code}
    (h : codes stop ts = .ok (cs, rest)) : rest.length < ts.length := by
  fun_induction codes stop ts generalizing cs rest <;> grind

theorem length_variables {stop : Nat} {ts rest : List PlacedToken} {names : List String}
    (h : vars stop ts = .ok (names, rest)) : rest.length < ts.length := by
  unfold vars at h
  split at h <;> grind [→ length_variableNames]

theorem length_selection {stop : Nat} {ts rest : List PlacedToken} {s : Selection}
    (h : selection stop ts = .ok (s, rest)) : rest.length < ts.length := by
  unfold selection at h
  split at h <;> grind [→ length_codes]

theorem length_bracketed {stop : Nat} {ts rest : List PlacedToken} {s : Selection}
    (h : bracketed stop ts = .ok (s, rest)) : rest.length < ts.length := by
  unfold bracketed at h
  split at h <;> grind [→ length_selection]

theorem length_hop {stop : Nat} {ts rest : List PlacedToken} {spec : WrittenHop}
    (h : hop stop ts = .ok (spec, rest)) : rest.length < ts.length := by
  unfold hop at h
  split at h <;> grind [→ length_bracketed]

/-- A segment takes at least one token. -/
theorem length_segment {stop : Nat} {ts rest : List PlacedToken} {s : Nat × Segment}
    (h : segment stop ts = .ok (s, rest)) : rest.length < ts.length := by
  unfold segment at h
  split at h <;> grind [→ length_variables, → length_hop]

/-- Segments with arrows between them, to the end. -/
def segments (stop : Nat) (ts : List PlacedToken) : Except QueryFault (List (Nat × Segment)) :=
  match _h : segment stop ts with
  | .error e => .error e
  | .ok (s, []) => .ok [s]
  | .ok (s, ⟨.arrow, _⟩ :: rest) =>
    match segments stop rest with
    | .error e => .error e
    | .ok more => .ok (s :: more)
  | .ok (_, rest) => .error (refusal stop .arrowBetweenSegments rest)
termination_by ts.length
decreasing_by
  have := length_segment _h
  simp only [List.length_cons] at this
  omega

/-- The hops between the two ends of a query, where nothing else may stand. -/
def innerHops : List (Nat × Segment) → Except QueryFault (List WrittenHop)
  | [] => .ok []
  | (_, .hop spec) :: rest =>
    match innerHops rest with
    | .error e => .error e
    | .ok specs => .ok (spec :: specs)
  | (position, s) :: _ => .error (.malformed position (.misplacedSegment s))

/-- The hops between the two ends of a query, of which there must be one. -/
def someHops (stop : Nat) (inner : List (Nat × Segment)) : Except QueryFault (List WrittenHop) :=
  if inner.isEmpty then .error (.malformed stop .noHop) else innerHops inner

/-- The path that segments form: a variable list at one end, the anchor at the other, hops between them. -/
def pathOf (stop : Nat) : List (Nat × Segment) → Except QueryFault WrittenPath
  | (_, .vars names) :: rest =>
    match rest.getLast? with
    | some (_, .anchor) =>
      match someHops stop rest.dropLast with
      | .error e => .error e
      | .ok specs => .ok ⟨.variablesFirst, specs.reverse, names⟩
    | _ => .error (.malformed 0 .unanchored)
  | (_, .anchor) :: rest =>
    match rest.getLast? with
    | some (_, .vars names) =>
      match someHops stop rest.dropLast with
      | .error e => .error e
      | .ok specs => .ok ⟨.sampleFirst, specs, names⟩
    | _ => .error (.malformed 0 .unanchored)
  | _ => .error (.malformed 0 .unanchored)

/-- The tokens of a text that is not blank. -/
def tokens (text : String) : Except QueryFault (List PlacedToken) :=
  if Text.isAllBlank text then .error .blank
  else
    match Token.scan 0 text.toList with
    | .error stray => .error (.malformed stray.offset (.strayCharacter stray.found))
    | .ok ts => .ok ts

end Grammar

/-- Reads a query. Only its form is looked at. -/
def WrittenPath.ofText (text : String) : Except QueryFault WrittenPath :=
  match Grammar.tokens text with
  | .error e => .error e
  | .ok ts =>
    match Grammar.segments text.utf8ByteSize ts with
    | .error e => .error e
    | .ok segments => Grammar.pathOf text.utf8ByteSize segments

/-- Reads a hop by itself. A context's name alone selects all its codes. -/
def WrittenHop.ofText (text : String) : Except QueryFault WrittenHop :=
  match Grammar.tokens text with
  | .error e => .error e
  | .ok [⟨.word name, position⟩] => .ok ⟨name, .all, position⟩
  | .ok ts =>
    match Grammar.hop text.utf8ByteSize ts with
    | .error e => .error e
    | .ok (spec, []) => .ok spec
    | .ok (_, t :: _) => .error (.malformed t.offset (.afterHop t.token))

end TieWalk
