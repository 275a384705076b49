import ChartText.Command.Host

/-! # A world in memory

Files and directories as a value, and the host that reads and changes it. -/

namespace ChartText

inductive FileError
  | notFound
  | alreadyExists
  | notDirectory
  | isDirectory
  | notText
deriving Repr, DecidableEq

def FileError.message : FileError → String
  | notFound => "No such file or directory (os error 2)"
  | alreadyExists => "File exists (os error 17)"
  | notDirectory => "Not a directory (os error 20)"
  | isDirectory => "Is a directory (os error 21)"
  | notText => "stream did not contain valid UTF-8"

def textOfBytes (bytes : ByteArray) : Except FileError String :=
  match String.fromUTF8? bytes with
  | some text => .ok text
  | none => .error .notText

/-- A place in a tree of directories: the names that lead to it from the root. -/
abbrev Place := List String

inductive Node
  | file (content : ByteArray)
  | directory

/-- What the error stream holds: texts that are printed and events that are logged. -/
inductive ErrorEntry
  | text (s : String)
  | event (e : LogEvent)
deriving Repr, DecidableEq

structure World where
  nodes : List (Place × Node)
  workingPlace : Place
  userDirectory : Option String
  standardInput : ByteArray
  output : String := ""
  errors : List ErrorEntry := []
  /-- The events that the log shows. -/
  shows : LogEvent → Bool := fun _ => false
  requestedEvents : Option (LogEvent → Bool) := none

namespace World

/-- What is at a place. The root is always there. -/
def node? (w : World) (p : Place) : Option Node :=
  if p.isEmpty then some .directory else (w.nodes.find? (·.1 == p)).map Prod.snd

def put (w : World) (p : Place) (n : Node) : World :=
  { w with nodes := (p, n) :: w.nodes.filter (·.1 != p) }

/-! ### Paths -/

def ofPlace (p : Place) : String :=
  "/" ++ "/".intercalate p

def partsOf (path : String) : List String :=
  (Text.cutAt (· == '/') path.toList).map String.ofList

def startOf (w : World) (path : String) : Place :=
  if path.toList.head? == some '/' then [] else w.workingPlace

/-- Follows the parts of a path. All places on the way have to be directories, and the last one
need not be there. -/
def walk (w : World) : Place → List String → Except FileError Place
  | here, [] => .ok here
  | here, part :: rest =>
    match w.node? here with
    | none => .error .notFound
    | some (.file _) => .error .notDirectory
    | some .directory =>
      if part == "" || part == "." then w.walk here rest
      else if part == ".." then w.walk here.dropLast rest
      else w.walk (here ++ [part]) rest

def locate (w : World) (path : String) : Except FileError Place :=
  if path.isEmpty then .error .notFound else w.walk (w.startOf path) (partsOf path)

/-! ### Operations -/

def isPresent (w : World) (path : String) : Bool :=
  match w.locate path with
  | .ok p => (w.node? p).isSome
  | .error _ => false

def readText (w : World) (path : String) : Except FileError String := do
  match w.node? (← w.locate path) with
  | none => .error .notFound
  | some .directory => .error .isDirectory
  | some (.file content) => textOfBytes content

/-- Leaves a text in a file, which need not be there before. A path that ends in `/` names no
file. -/
def writeText (w : World) (path text : String) : Except FileError World := do
  if path.toList.getLast? == some '/' then
    let name := (path.toList.reverse.dropWhile (· == '/')).reverse
    let _ ← w.walk (w.startOf path) (partsOf (String.ofList name))
    throw .isDirectory
  let p ← w.locate path
  match w.node? p with
  | some .directory => .error .isDirectory
  | _ => return w.put p (.file text.toUTF8)

/-- Makes the directories on the way along a path that are missing. -/
def makeWay (w : World) : Place → List String → Except FileError World
  | _, [] => .ok w
  | here, part :: rest =>
    let next := if part == "" || part == "." then here
      else if part == ".." then here.dropLast
      else here ++ [part]
    match w.node? next with
    | some .directory => w.makeWay next rest
    | some (.file _) => .error (if rest.isEmpty then .alreadyExists else .notDirectory)
    | none => (w.put next .directory).makeWay next rest

def createDirectories (w : World) (path : String) : Except FileError World :=
  w.makeWay (w.startOf path) (partsOf path)

/-! ### The error stream -/

def printError (w : World) (text : String) : World :=
  { w with errors := w.errors ++ [.text text] }

/-- What the log shows of an event: the event itself, or nothing. -/
def entries (w : World) (e : LogEvent) : List ErrorEntry :=
  if w.shows e then [.event e] else []

def log (w : World) (e : LogEvent) : World :=
  { w with errors := w.errors ++ w.entries e }

/-! ### The host -/

/-- An operation that only looks at the world. -/
def look (f : World → Except FileError α) : StateM World (Except String α) :=
  fun w => ((f w).mapError FileError.message, w)

/-- An operation that changes the world, unless it fails. -/
def change (f : World → Except FileError World) : StateM World (Except String Unit) :=
  fun w =>
    match f w with
    | .ok w' => (.ok (), w')
    | .error e => (.error e.message, w)

def host : Host (StateM World) where
  isPresent path := fun w => (w.isPresent path, w)
  readText path := look (·.readText path)
  workingDirectory := fun w => (some (ofPlace w.workingPlace), w)
  userDirectory := fun w => (w.userDirectory, w)
  readStandardInput := look fun w => textOfBytes w.standardInput
  createDirectories path := change (·.createDirectories path)
  writeText path text := change (·.writeText path text)
  printOutput text := modify fun w => { w with output := w.output ++ text }
  printError text := modify (·.printError text)
  log e := modify (·.log e)
  showEvents shows := modify fun w => { w with shows }
  requestedEvents := fun w => (w.requestedEvents, w)

end World
end ChartText
