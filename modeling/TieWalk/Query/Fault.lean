import TieWalk.Query.Path
import TieWalk.Query.Token

/-!
# What can be wrong with a query

A query is refused for one cause. `QueryFault.message` is the one place where causes are worded.
-/

namespace TieWalk

/-- What the grammar asked for at a place where it found something else. -/
inductive Expectation where
  | arrowBetweenSegments
  | segment
  | variableName
  | commaOrClosing
  | contextName
  | openingAfterContext
  | selection
  | closingAfterCodes
  | code
  deriving DecidableEq, Repr

/-- The wording of an expectation. -/
def Expectation.text : Expectation → String
  | .arrowBetweenSegments => "'->' between segments"
  | .segment => "a variable list, hop or 'sample'"
  | .variableName => "a variable name"
  | .commaOrClosing => "',' or ']'"
  | .contextName => "a context name"
  | .openingAfterContext => "'[' after context name"
  | .selection => "'all' or relationship codes"
  | .closingAfterCodes => "']' after relationship codes"
  | .code => "a relationship code"

/-- A fault of form. -/
inductive FormFault where
  | strayCharacter (found : Char)
  | expected (what : Expectation) (found : Option Token)
  | emptySegment
  | codeOutOfRange (digits : String)
  | unanchored
  | noHop
  | misplacedSegment (segment : Segment)
  | afterHop (found : Token)
  deriving DecidableEq, Repr

/-- The wording of a fault. -/
def FormFault.message : FormFault → String
  | .strayCharacter c => "unexpected character '" ++ String.singleton c ++ "'"
  | .expected what (some t) => "expected " ++ what.text ++ ", found " ++ t.shown
  | .expected what none => "expected " ++ what.text ++ ", found end of query"
  | .emptySegment => "empty segment; use ' -> ' between segments"
  | .codeOutOfRange digits => "relationship code '" ++ digits ++ "' is out of range"
  | .unanchored => "query must start with '[VARS]' and end with 'sample' (or the reverse)"
  | .noHop => "query must contain at least one hop, e.g. '[VAR] -> Family[all] -> sample'"
  | .misplacedSegment s => "unexpected segment '" ++ s.text ++ "' between the variable list and 'sample'"
  | .afterHop t => "unexpected " ++ t.shown ++ " after hop"

/-- Why a query is refused. -/
inductive QueryFault where
  | blank
  | malformed (position : Nat) (fault : FormFault)
  | noVariables
  | unknownContext (name : String)
  | invalidCode (context : Context) (code : Code)
  deriving DecidableEq, Repr

/-- The wording of a refusal. Positions are byte offsets. -/
def QueryFault.message : QueryFault → String
  | .blank => "query must be a non-empty string"
  | .malformed position fault => "syntax error at position " ++ toString position ++ ": " ++ fault.message
  | .noVariables => "no aggregation variables found; expected something like '[VAR]' in the query"
  | .unknownContext name => "unknown context '" ++ name ++ "'; known contexts: " ++ Context.allNames
  | .invalidCode context code =>
    "relationship code " ++ toString code.toNat ++ " is not valid for context " ++ context.name

end TieWalk
