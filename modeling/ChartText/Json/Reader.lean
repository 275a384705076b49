import ChartText.Json.Token
import ChartText.Json.Value

/-! # Reading JSON

`Json.parse?` reads a text that holds one value. The containers that are still open are kept on a
list, so values may be nested to any depth. -/

namespace ChartText.Json

/-- A container that is still open, with what it holds so far, the last one first. -/
inductive Frame
  | array (done : List Json)
  | object (done : List (Option String × Json)) (key : Option String)

/-- What may come next. -/
inductive Mode
  | value
  /-- A value, or the end of the array that was just opened. -/
  | firstElement
  /-- A key, or the end of the object that was just opened. -/
  | firstField
  | field (done : List (Option String × Json))
  | colon (done : List (Option String × Json)) (key : Option String)
  /-- A separator, the end of a container, or the end of the text. -/
  | after (v : Json)

structure Progress where
  mode : Mode
  stack : List Frame

namespace Progress

def readValue (stack : List Frame) : Token → Option Progress
  | .null => some ⟨.after .null, stack⟩
  | .bool b => some ⟨.after (.bool b), stack⟩
  | .number literal => some ⟨.after (.number literal), stack⟩
  | .string s => some ⟨.after (.string s), stack⟩
  | .openBracket => some ⟨.firstElement, .array [] :: stack⟩
  | .openBrace => some ⟨.firstField, stack⟩
  | _ => none

def readAfter (v : Json) : List Frame → Token → Option Progress
  | .array done :: stack, .comma => some ⟨.value, .array (v :: done) :: stack⟩
  | .array done :: stack, .closeBracket => some ⟨.after (.array (v :: done).reverse), stack⟩
  | .object done key :: stack, .comma => some ⟨.field ((key, v) :: done), stack⟩
  | .object done key :: stack, .closeBrace =>
    some ⟨.after (.object ((key, v) :: done).reverse), stack⟩
  | _, _ => none

def step (p : Progress) (t : Token) : Option Progress :=
  match p.mode, p.stack, t with
  | .value, stack, t => readValue stack t
  | .firstElement, .array [] :: stack, .closeBracket => some ⟨.after (.array []), stack⟩
  | .firstElement, stack, t => readValue stack t
  | .firstField, stack, .closeBrace => some ⟨.after (.object []), stack⟩
  | .firstField, stack, .string key => some ⟨.colon [] key, stack⟩
  | .field done, stack, .string key => some ⟨.colon done key, stack⟩
  | .colon done key, stack, .colon => some ⟨.value, .object done key :: stack⟩
  | .after v, stack, t => readAfter v stack t
  | _, _, _ => none

def run : Progress → List Token → Option Progress
  | p, [] => some p
  | p, t :: rest =>
    match p.step t with
    | some q => run q rest
    | none => none

def value? : Progress → Option Json
  | ⟨.after v, []⟩ => some v
  | _ => none

end Progress

def parse? (s : String) : Option Json := do
  let tokens ← tokens? s.toList
  let final ← Progress.run ⟨.value, []⟩ tokens
  final.value?

/-! ### Values as data -/

def toText? : Json → Option String
  | .string s => s
  | _ => none

def toList? (read : Json → Option α) : Json → Option (List α)
  | .array elements => elements.mapM read
  | _ => none

/-- `null` stands for no value. -/
def toOption? (read : Json → Option α) : Json → Option (Option α)
  | .null => some none
  | v => (read v).map some

/-- The values of a record's fields. A record is an object, whose other fields are skipped and which
names no field twice, or an array of the first so many values. -/
def record? (names : List String) : Json → Option (List (Option Json))
  | .array elements =>
    if elements.length ≤ names.length then
      some (elements.map some ++ List.replicate (names.length - elements.length) none)
    else none
  | .object fields => do
    let keys ← fields.mapM Prod.fst
    if names.all fun name => keys.count name ≤ 1 then
      return names.map fun name => (fields.find? (·.1 == some name)).map Prod.snd
    else none
  | _ => none

def fieldOr (default : α) (read : Json → Option α) : Option Json → Option α
  | none => some default
  | some v => read v

end ChartText.Json
