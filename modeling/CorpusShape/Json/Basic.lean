/-!
# JSON values

Values with the fields of objects in the order in which they are written. A number is kept as it is
written, so that nothing is lost between reading and writing.
-/
namespace CorpusShape

/-- A JSON value. -/
inductive Json where
  | null
  | bool (b : Bool)
  | number (literal : String)
  | string (s : String)
  | array (items : List Json)
  | object (fields : List (String × Json))
deriving Repr, Inhabited

namespace Json

/-- The whole number `n`. -/
def ofInt (n : Int) : Json := .number (toString n)

end Json

end CorpusShape
