import ChartText.Settings.Discovery
import ChartText.Text.Lines

/-! # The surroundings of a command

Everything that a command can do besides computing: reading, writing, printing and logging. Commands
are written for any `Host`, so they can run on real files and on a world in memory. -/

namespace ChartText

structure Host (m : Type → Type) extends FileView m where
  /-- The text of the standard input, or why it cannot be read. -/
  readStandardInput : m (Except String String)
  /-- Makes a directory and those above it, as far as they are missing. -/
  createDirectories : String → m (Except String Unit)
  /-- Replaces the content of a file, which is created if it is missing. -/
  writeText : (path text : String) → m (Except String Unit)
  printOutput : String → m Unit
  printError : String → m Unit
  /-- Fixes which events the log shows from now on. -/
  showEvents : (LogEvent → Bool) → m Unit
  /-- Which events the user's environment asks for, if it does. -/
  requestedEvents : m (Option (LogEvent → Bool))

namespace Host

variable {m : Type → Type} [Monad m]

/-- The path that stands for the standard input. -/
def standardPath : String := "-"

def readInput (host : Host m) (input : Option String) : ExceptT Failure m String :=
  match input with
  | none => fromStandardInput
  | some path =>
    if path == standardPath then fromStandardInput
    else do
      host.log (.readingInput path)
      match ← host.readText path with
      | .ok text => return text
      | .error reason => throw (.unreadable path reason)
where
  fromStandardInput : ExceptT Failure m String := do
    host.log .readingStandardInput
    match ← host.readStandardInput with
    | .ok text => return text
    | .error reason => throw (.io reason)

/-- What has happened to an attempt, as a failure if it has none. -/
def attempt (action : m (Except String Unit)) : ExceptT Failure m Unit := do
  match ← action with
  | .ok () => return ()
  | .error reason => throw (.io reason)

/-- The directory that holds the last part of a path, unless it is the working directory. -/
def parentPath? (path : String) : Option String :=
  let isFromRoot := path.toList.head? == some '/'
  let parts := (Text.cutAt (· == '/') path.toList).filter fun part => !part.isEmpty && part ≠ ['.']
  let above := String.ofList (['/'].intercalate parts.dropLast)
  if parts.isEmpty then none
  else if isFromRoot then some ("/" ++ above)
  else if above.isEmpty then none
  else some above

def writeFile (host : Host m) (path text : String) : ExceptT Failure m Unit := do
  attempt (host.writeText path text)
  host.log (.wroteOutput path text.utf8ByteSize)

/-- Writes a text to a file, in a directory that is made if it is missing, or prints it. -/
def writeOutput (host : Host m) (output : Option String) (text : String) :
    ExceptT Failure m Unit :=
  match output with
  | none => host.printOutput text
  | some path => do
    match parentPath? path with
    | none => pure ()
    | some directory => attempt (host.createDirectories directory)
    host.writeFile path text

end Host
end ChartText
