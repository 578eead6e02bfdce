/-!
# Column names of the register

The names under which persons, relatives and codes stand in every table, and the name that carries a sample person
through a walk.
-/

namespace TieWalk.ColumnName

/-- The person identifier of samples, characteristics and relation tables. -/
def person : String := "RINPERSOON"

/-- The identifier of the other person in a relation table. -/
def relative : String := "RINPERSOONRELATIE"

/-- The relationship code in a relation table. -/
def code : String := "RELATIE"

/-- The name space that person identifiers belong to. -/
def idSpace : String := "RINPERSOONS"

/-- The sample person from whom a walk started. -/
def samplePerson : String := "RINPERSOONsample"

/-- The row number that a join adds to its left table while it runs. -/
def rowNumber : String := "__row"

end TieWalk.ColumnName
