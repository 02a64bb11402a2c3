/-!
# Values of the data format

The members of an object keep their order and their repetitions. A string whose escapes
leave a surrogate alone has the form of a string but is no text.
-/

namespace SymbolIndex

inductive Json where
  | null
  | bool (b : Bool)
  /-- A number without fraction and exponent, by its sign and its magnitude. -/
  | integer (negative : Bool) (magnitude : Nat)
  /-- A number with a fraction or an exponent, as written. -/
  | decimal (lexeme : List Char)
  /-- A string, if it is a text. -/
  | string (text : Option String)
  | array (items : List Json)
  | object (members : List (Option String × Json))

namespace Json

inductive Token where
  | openArray
  | closeArray
  | openObject
  | closeObject
  | comma
  | colon
  /-- A value that is one token. -/
  | scalar (j : Json)

def text (s : String) : Json := .string (some s)

/-- A whole number without a sign. -/
def natural (n : Nat) : Json := .integer false n

/-- An object whose keys are texts. -/
def fields (members : List (String × Json)) : Json :=
  .object (members.map fun m => (some m.1, m.2))

end Json

end SymbolIndex
