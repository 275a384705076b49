import ChartText.Toml.Number
import ChartText.Toml.Text

/-! # Reading TOML

`Toml.parse?` reads a document into its root table. Arrays of tables and dates are not read: no
setting is one. -/

namespace ChartText.Toml

/-- How deep arrays and inline tables may be nested. -/
def maxDepth : Nat := 80

def endsWord (c : Char) : Bool :=
  isSpace c || c == '\n' || c == ',' || c == ']' || c == '\x7d' || c == '#'

mutual

/-- A value and the rest. Every round takes at least one character or ends a value. -/
def readValue? (depth : Nat) : (rounds : Nat) → List Char → Option (Toml × List Char)
  | 0, _ => none
  | rounds + 1, s =>
    match s with
    | '[' :: rest => if depth = 0 then none else readElements? (depth - 1) rounds [] rest
    | '\x7b' :: rest => if depth = 0 then none else readEntries? (depth - 1) rounds [] rest
    | c :: _ =>
      if c == '"' || c == '\'' then
        (string? s).map fun (text, rest) => (.string text, rest)
      else
        (scalar? (s.takeWhile (!endsWord ·))).map fun v => (v, s.dropWhile (!endsWord ·))
    | [] => none

/-- The elements of an array up to its end, after those in `done`, the last one first. -/
def readElements? (depth : Nat) :
    (rounds : Nat) → (done : List Toml) → List Char → Option (Toml × List Char)
  | 0, _, _ => none
  | rounds + 1, done, s =>
    match skipLines? s.length s with
    | some (']' :: rest) => some (.array done.reverse, rest)
    | some s' =>
      match readValue? depth rounds s' with
      | none => none
      | some (v, rest) =>
        match skipLines? rest.length rest with
        | some (']' :: after) => some (.array (v :: done).reverse, after)
        | some (',' :: after) => readElements? depth rounds (v :: done) after
        | _ => none
    | none => none

/-- The entries of an inline table up to its end, after those in `done`. -/
def readEntries? (depth : Nat) :
    (rounds : Nat) → (done : Table) → List Char → Option (Toml × List Char)
  | 0, _, _ => none
  | rounds + 1, done, s =>
    match skipLines? s.length s with
    | some ('\x7d' :: rest) => some (.inline done, rest)
    | some s' =>
      match key? s'.length s' with
      | some (keys, '=' :: written) =>
        match readValue? depth rounds (skipSpaces written) with
        | none => none
        | some (v, rest) =>
          match assign v keys done with
          | none => none
          | some table =>
            match skipLines? rest.length rest with
            | some ('\x7d' :: after) => some (.inline table, after)
            | some (',' :: after) => readEntries? depth rounds table after
            | _ => none
      | _ => none
    | none => none

end

/-! ### Documents -/

/-- The root table, and the header of the table that entries go into. -/
structure Progress where
  root : Table
  header : List String

def readHeader? (p : Progress) (s : List Char) : Option (Progress × List Char) := do
  match ← key? s.length s with
  | (path, ']' :: rest) =>
    let root ← openTable path p.root
    return (⟨root, path⟩, ← endLine? rest)
  | _ => none

def readEntry? (p : Progress) (s : List Char) : Option (Progress × List Char) := do
  match ← key? s.length s with
  | (keys, '=' :: written) =>
    let (v, rest) ← readValue? maxDepth (written.length + 1) (skipSpaces written)
    let root ← within (assign v keys) p.header p.root
    return (⟨root, p.header⟩, ← endLine? rest)
  | _ => none

/-- Reads line after line; every line that is not skipped takes a round. -/
def readLines? : (rounds : Nat) → Progress → List Char → Option Table
  | 0, p, s => if s.isEmpty then some p.root else none
  | rounds + 1, p, s =>
    match skipLines? s.length s with
    | none => none
    | some [] => some p.root
    | some ('[' :: rest) =>
      match readHeader? p rest with
      | some (q, after) => readLines? rounds q after
      | none => none
    | some s' =>
      match readEntry? p s' with
      | some (q, after) => readLines? rounds q after
      | none => none

/-- The root table of a document. A byte order mark at its start is skipped. -/
def parse? (text : String) : Option Table := do
  let chars := match text.toList with
    | '\uFEFF' :: rest => rest
    | s => s
  let s ← normalizeLines? [] chars
  readLines? (s.length + 1) ⟨[], []⟩ s

end ChartText.Toml
