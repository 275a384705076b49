import ChartText.Command.Level

/-! # Reading the arguments of one level

`scan` reads arguments up to the first command. Options stand in any order, a cluster of letters is
several of them, and `--` makes inputs of all arguments after it. -/

namespace ChartText.Arguments

/-- An option or an input that has not been checked yet. -/
structure Pending where
  key : Key
  reader : ValueReader
  /-- The text of the value, once it is there. -/
  text : Option String

/-- What the arguments so far give. A value is checked when the argument after it has been
recognised. -/
structure Progress where
  given : List (Key × Value) := []
  pending : Option Pending := none
  hasInput : Bool := false
  afterDashes : Bool := false

namespace Progress

/-- The next argument is the value of an option, unless it looks like an option itself. -/
def awaitsValue (p : Progress) : Bool :=
  p.pending.any (·.text.isNone)

/-- Adds a value. Only `verbose` can be given more than once. -/
def give (p : Progress) (key : Key) (value : Unit → Except UsageFault Value) :
    Except UsageFault Progress :=
  if key ≠ .verbose && p.given.any (·.1 == key) then .error .repeatedOption
  else (value ()).map fun v => { p with given := p.given ++ [(key, v)] }

def settle (p : Progress) : Except UsageFault Progress :=
  match p.pending with
  | none => .ok p
  | some ⟨_, _, none⟩ => .error .invalidValue
  | some ⟨key, reader, some text⟩ => { p with pending := none }.give key fun _ => reader text

/-- An option without a value. -/
def raise (p : Progress) (key : Key) : Except UsageFault Progress := do
  let p ← p.settle
  match key with
  | .help => .error .help
  | .version => .error .version
  | key => p.give key fun _ => .ok .flag

/-- An option whose value follows in the next argument. -/
def await (p : Progress) (key : Key) (reader : ValueReader) : Except UsageFault Progress := do
  let p ← p.settle
  return { p with pending := some ⟨key, reader, none⟩ }

/-- An option with its value in the same argument. -/
def attach (p : Progress) (key : Key) (reader : ValueReader) (text : String) :
    Except UsageFault Progress := do
  let p ← p.settle
  p.give key fun _ => reader text

end Progress

/-- An option by its long name, with the text after the equals sign if there is one. -/
def readLong (level : Level) (p : Progress) (name : List Char) (text : Option String) :
    Except UsageFault Progress :=
  match level.switches.find? (·.long.toList == name) with
  | none => .error .unknownArgument
  | some switch =>
    match switch.reader, text with
    | some reader, some text => p.attach switch.key reader text
    | some reader, none => p.await switch.key reader
    | none, some _ => .error .needlessValue
    | none, none => p.raise switch.key

/-- Options by their letters. What follows the letter of an option with a value is that value. -/
def readShort (level : Level) : List Char → Progress → Except UsageFault Progress
  | [], p => .ok p
  | c :: cs, p =>
    match level.switches.find? (·.short == some c) with
    | none => .error .unknownArgument
    | some switch =>
      match switch.reader, cs with
      | none, cs => (p.raise switch.key).bind (readShort level cs)
      | some reader, [] => p.await switch.key reader
      | some reader, '=' :: text => p.attach switch.key reader (String.ofList text)
      | some reader, text => p.attach switch.key reader (String.ofList text)

def readInput (level : Level) (p : Progress) (arg : String) : Except UsageFault Progress :=
  match level.input with
  | some reader =>
    if p.hasInput then .error .unknownArgument
    else p.settle.map fun p =>
      { p with hasInput := true, pending := some ⟨.input, reader, some arg⟩ }
  | none =>
    if level.commands.isEmpty || (p.afterDashes && level.commands.contains arg) then
      .error .unknownArgument
    else .error .unknownCommand

/-- A long option without its hyphens, cut at the first equals sign. -/
def splitLong (s : List Char) : List Char × Option String :=
  match s.dropWhile (· != '=') with
  | [] => (s, none)
  | _ :: text => (s.takeWhile (· != '='), some (String.ofList text))

def readArgument (level : Level) (p : Progress) (arg : String) : Except UsageFault Progress :=
  if p.afterDashes then readInput level p arg
  else
    match arg.toList with
    | ['-', '-'] => .ok { p with afterDashes := true }
    | '-' :: '-' :: s =>
      let (name, text) := splitLong s
      readLong level p name text
    | '-' :: c :: cs => readShort level (c :: cs) p
    | _ =>
      match p.pending with
      | some ⟨key, reader, none⟩ => .ok { p with pending := some ⟨key, reader, some arg⟩ }
      | _ => readInput level p arg

/-- Reads arguments up to the first command, and gives that command and the arguments after it. -/
def scan (level : Level) : List String → Progress →
    Except UsageFault (Progress × Option (String × List String))
  | [], p => .ok (p, none)
  | arg :: rest, p =>
    if !p.afterDashes && !p.awaitsValue && level.commands.contains arg then
      .ok (p, some (arg, rest))
    else (readArgument level p arg).bind (scan level rest)

/-- What is wrong when no command follows. -/
def missing (p : Progress) : UsageFault :=
  if p.given.isEmpty then .noArguments else .missingCommand

end ChartText.Arguments
