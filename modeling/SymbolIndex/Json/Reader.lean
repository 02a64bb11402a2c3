import SymbolIndex.Json.Scanner

/-!
# From characters to values

The reader takes one token at a time. Its state says what may come next and holds the arrays and
objects that have been opened and not yet closed. It runs beside the scanner, which gives it each
token when the token's last character is known.
-/

namespace SymbolIndex.Json

/-- An array or object that has been opened. What has been read stands last first. -/
inductive Frame where
  | array (items : List Json)
  /-- An object, with the key of the value that is being read. -/
  | object (members : List (Option String × Json)) (key : Option String)

inductive Reader where
  /-- A value must come. -/
  | value (stack : List Frame)
  /-- An array has been opened: a value or its end must come. -/
  | firstItem (stack : List Frame)
  /-- An object has been opened: a key or its end must come. -/
  | firstKey (stack : List Frame)
  /-- A key must come. -/
  | key (members : List (Option String × Json)) (stack : List Frame)
  /-- A colon must come. -/
  | colon (members : List (Option String × Json)) (key : Option String) (stack : List Frame)
  /-- A value has been read. -/
  | done (j : Json) (stack : List Frame)

/-- Reads the token with which a value begins. -/
def readValue (stack : List Frame) : Token → Option Reader
  | .openArray => some (.firstItem stack)
  | .openObject => some (.firstKey stack)
  | .scalar j => some (.done j stack)
  | _ => none

/-- Reads a token. -/
def readStep : Reader → Token → Option Reader
  | .value stack, t => readValue stack t
  | .firstItem stack, .closeArray => some (.done (.array []) stack)
  | .firstItem stack, t => readValue (.array [] :: stack) t
  | .firstKey stack, .closeObject => some (.done (.object []) stack)
  | .firstKey stack, .scalar (.string k) => some (.colon [] k stack)
  | .key members stack, .scalar (.string k) => some (.colon members k stack)
  | .colon members k stack, .colon => some (.value (.object members k :: stack))
  | .done j (.array items :: stack), .comma => some (.value (.array (j :: items) :: stack))
  | .done j (.array items :: stack), .closeArray =>
    some (.done (.array (j :: items).reverse) stack)
  | .done j (.object members k :: stack), .comma => some (.key ((k, j) :: members) stack)
  | .done j (.object members k :: stack), .closeObject =>
    some (.done (.object ((k, j) :: members).reverse) stack)
  | _, _ => none

/-- The value that has been read when nothing is left open. -/
def readEnd : Reader → Option Json
  | .done j [] => some j
  | _ => none

/-- Reads tokens one after the other. -/
def readTokens : Reader → List Token → Option Reader
  | r, [] => some r
  | r, t :: ts => (readStep r t).bind fun r => readTokens r ts

/-- Reads characters, from a state of the scanner and a state of the reader on. -/
def parseFrom : Scan → Reader → List Char → Option Json
  | s, r, [] => (scanEnd s).bind fun ts => (readTokens r ts).bind readEnd
  | s, r, c :: cs =>
    match scanStep s c with
    | none => none
    | some (ts, s) =>
      match readTokens r ts with
      | none => none
      | some r => parseFrom s r cs

/-- The value that a text denotes, if the text is well formed. -/
def parse (s : String) : Option Json := parseFrom .between (.value []) s.toList

end SymbolIndex.Json
