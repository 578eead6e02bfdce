import TieWalk.AscSet
import TieWalk.Text.Blank

/-!
# Contexts and codes

The codebook: the five relationship contexts of the population network, the codes that classify the ties of each, and
what the codes mean. It is fixed, and a query may name nothing outside it.
-/

namespace TieWalk

/-- The tag that classifies a tie within its context. -/
abbrev Code := UInt32

/-- The number of possible codes. -/
def codeBound : Nat := 0x100000000

/-- A relationship context: one network table of the register. -/
inductive Context where
  | family | colleagues | neighbors | schoolmates | housemates
  deriving DecidableEq, Repr, Inhabited

namespace Context

/-- Every context, in codebook order. -/
def all : List Context := [.family, .colleagues, .neighbors, .schoolmates, .housemates]

/-- The name that queries use. -/
def name : Context → String
  | .family => "Family"
  | .colleagues => "Colleagues"
  | .neighbors => "Neighbors"
  | .schoolmates => "Schoolmates"
  | .housemates => "Housemates"

/-- The network table's name, less the three letters that end each of them. -/
def tableStem : Context → String
  | .family => "FAMILIENETWERK"
  | .colleagues => "COLLEGANETWERK"
  | .neighbors => "BURENNETWERK"
  | .schoolmates => "KLASGENOTENNETWERK"
  | .housemates => "HUISGENOTENNETWERK"

/-- The name of the network table, which is also the directory that holds its files. -/
def tableName (c : Context) : String := c.tableStem ++ "TAB"

/-- The context of exactly this name. -/
def ofName? (name : String) : Option Context := all.find? fun c => c.name == name

/-- The names of all contexts, for messages. -/
def allNames : String := ", ".intercalate (all.map name)

/-- The codes that classify a context's ties. -/
def codes : Context → AscSet Code
  | .family => ⟨[301, 302, 303, 304, 305, 306, 307, 308, 309, 310, 311, 312, 313, 314, 315, 316, 317, 318, 319, 320,
      321, 322], by decide⟩
  | .colleagues => ⟨[201], by decide⟩
  | .neighbors => ⟨[101, 102], by decide⟩
  | .schoolmates => ⟨[501, 502, 503, 504, 505, 506], by decide⟩
  | .housemates => ⟨[401, 402], by decide⟩

theorem mem_all (c : Context) : c ∈ all := by cases c <;> decide

theorem ofName?_name (c : Context) : ofName? c.name = some c := by cases c <;> rfl

theorem ofName?_eq_some_iff {s : String} {c : Context} : ofName? s = some c ↔ s = c.name := by
  refine ⟨fun h => ?_, fun h => h ▸ ofName?_name c⟩
  have : (c.name == s) = true := List.find?_some (p := fun c : Context => c.name == s) h
  exact (beq_iff_eq.1 this).symm

end Context

namespace Code

/-- What each code means, in ascending order of the codes. -/
def meanings : List (Code × String) := [
  (101, "Neighbor - 10 closest addresses"),
  (102, "Neighborhood acquaintance - 20 random neighbors within 200 meters"),
  (201, "Colleague"),
  (301, "Parent"),
  (302, "Co-parent"),
  (303, "Grandparent"),
  (304, "Child"),
  (305, "Grandchild"),
  (306, "Full sibling"),
  (307, "Half sibling"),
  (308, "Unknown sibling"),
  (309, "Cousin"),
  (310, "Nephew/Niece"),
  (311, "Aunt/Uncle"),
  (312, "Partner - married"),
  (313, "Partner - not married"),
  (314, "Parent-in-law"),
  (315, "Child-in-law"),
  (316, "Sibling-in-law"),
  (317, "Stepparent"),
  (318, "Stepchild"),
  (319, "Stepsibling"),
  (320, "Married full cousin"),
  (321, "Married cousin"),
  (322, "Married aunt/uncle"),
  (401, "Housemate"),
  (402, "Housemate - institution"),
  (501, "Classmate primary education"),
  (502, "Classmate special education"),
  (503, "Classmate secondary education"),
  (504, "Classmate vocational education"),
  (505, "Classmate higher professional education"),
  (506, "Classmate university education")]

/-- The meaning of a code, if the codebook has it. -/
def meaning? (code : Code) : Option String := meanings.lookup code

/-- The first context, in codebook order, that has a code. -/
def context? (code : Code) : Option Context := Context.all.find? fun c => decide (code ∈ c.codes)

/-- The contexts, in codebook order, that have a code. -/
def contexts (code : Code) : List Context := Context.all.filter fun c => decide (code ∈ c.codes)

end Code

/-- Codes as text, in ascending order, with commas between them. -/
def AscSet.codeText (codes : AscSet Code) : String := ",".intercalate (codes.toList.map fun c => toString c.toNat)

end TieWalk
