/-! # TOML tables

A TOML document as a tree of tables. Every table remembers how it came to be, because that decides
what may still be added to it: a table with a header of its own is opened once, an inline table is
complete, and only tables that dotted keys or longer headers brought about can be extended. -/

namespace ChartText

inductive Toml
  | string (s : String)
  | integer (n : Int)
  | float (x : Float)
  | bool (b : Bool)
  | array (elements : List Toml)
  /-- A table that a header opens. -/
  | headed (entries : List (String × Toml))
  /-- A table that a longer header runs through. -/
  | implied (entries : List (String × Toml))
  /-- A table that a dotted key runs through. -/
  | dotted (entries : List (String × Toml))
  | inline (entries : List (String × Toml))

namespace Toml

/-- Why a text is refused as TOML, or as the TOML of something. -/
structure Fault where
  message : String
  /-- The first byte that is at fault, and the first one after those. -/
  span : Option (Nat × Nat) := none
  /-- The message together with the lines that it is about. -/
  text : String := message
deriving Repr, DecidableEq

def Fault.place? (f : Fault) : Option String :=
  f.span.map fun (start, stop) => "at bytes " ++ toString start ++ ".." ++ toString stop

abbrev Table := List (String × Toml)

/-- Replaces the value of a key, or adds it, if `f` allows it. -/
def alter (key : String) (f : Option Toml → Option Toml) : Table → Option Table
  | [] => (f none).map fun v => [(key, v)]
  | (k, v) :: rest =>
    if k == key then (f (some v)).map fun v' => (k, v') :: rest
    else (alter key f rest).map ((k, v) :: ·)

def openTable : (path : List String) → Table → Option Table
  | [], _ => none
  | [key], table => alter key (fun
      | none => some (.headed [])
      | some (.implied entries) => some (.headed entries)
      | some _ => none) table
  | key :: rest, table => alter key (fun
      | none => (openTable rest []).map .implied
      | some (.headed entries) => (openTable rest entries).map .headed
      | some (.implied entries) => (openTable rest entries).map .implied
      | some (.dotted entries) => (openTable rest entries).map .dotted
      | some _ => none) table

/-- Gives a value to a key with dots. -/
def assign (value : Toml) : (keys : List String) → Table → Option Table
  | [], _ => none
  | [key], table => alter key (fun
      | none => some value
      | some _ => none) table
  | key :: rest, table => alter key (fun
      | none => (assign value rest []).map .dotted
      | some (.implied entries) => (assign value rest entries).map .implied
      | some (.dotted entries) => (assign value rest entries).map .dotted
      | some _ => none) table

/-- Changes the table with a header that was opened before. -/
def within (f : Table → Option Table) : (path : List String) → Table → Option Table
  | [], table => f table
  | key :: rest, table => alter key (fun
      | some (.headed entries) => (within f rest entries).map .headed
      | some (.implied entries) => (within f rest entries).map .implied
      | some (.dotted entries) => (within f rest entries).map .dotted
      | _ => none) table

def entries? : Toml → Option Table
  | .headed entries | .implied entries | .dotted entries | .inline entries => some entries
  | _ => none

end Toml
end ChartText
