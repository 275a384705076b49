/-! # JSON values

A JSON text as a tree. Numbers keep the way they are written, because what a number means is up to
whoever reads it. -/

namespace ChartText

inductive Json
  | null
  | bool (b : Bool)
  | number (literal : List Char)
  /-- The string is `none` if an escape names half of a surrogate pair without the other half: such
  a string can be skipped but stands for no text. -/
  | string (s : Option String)
  | array (elements : List Json)
  | object (fields : List (Option String × Json))
deriving Repr

namespace Json

def ofString (s : String) : Json :=
  .string (some s)

def ofStrings (ss : List String) : Json :=
  .array (ss.map ofString)

/-- An object without the fields that have no value. -/
def ofFields (fields : List (String × Option Json)) : Json :=
  .object (fields.filterMap fun (key, value) => value.map fun v => (some key, v))

end Json
end ChartText
