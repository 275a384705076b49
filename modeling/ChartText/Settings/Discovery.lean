import ChartText.Failure
import ChartText.Log
import ChartText.Settings.Validity

/-! # Finding the settings file

Settings are read from a file that is named, or else from the first of two candidates that exists:
one in the working directory and one in the user's directory for settings. A candidate that exists
is final, whatever is wrong with it. How the text of a file becomes settings is a parameter. -/

namespace ChartText

/-- What can be seen of the files around a program, by one that logs what it finds. Paths are
texts. -/
structure FileView (m : Type → Type) extends Logger m where
  isPresent : String → m Bool
  /-- The text of a file, or why it cannot be read. -/
  readText : String → m (Except String String)
  workingDirectory : m (Option String)
  /-- The user's directory for the settings of this program. -/
  userDirectory : m (Option String)

def joinPath (directory name : String) : String :=
  if directory.isEmpty || directory.toList.getLast? == some '/' then directory ++ name
  else directory ++ "/" ++ name

/-- Settings, and the path of the file that they come from. -/
structure LoadedSettings where
  settings : Settings
  source : Option String
deriving Repr, DecidableEq

namespace Settings

def localName : String := ".plainviz.toml"

def userName : String := "config.toml"

def validated (s : Settings) : Except Failure Settings :=
  match s.fault? with
  | none => .ok s
  | some fault => .error (.configuration fault.message)

def decoded (decode : String → Except Toml.Fault Settings) (text : String) :
    Except Failure Settings :=
  match decode text with
  | .error fault => .error (.undecodableSettings fault)
  | .ok s => s.validated

variable {m : Type → Type} [Monad m]

def loadFrom (files : FileView m) (decode : String → Except Toml.Fault Settings)
    (path : String) : m (Except Failure LoadedSettings) := do
  if ← files.isPresent path then
    match ← files.readText path with
    | .error reason => return .error (.unreadable path reason)
    | .ok text => return (decoded decode text).map fun s => ⟨s, some path⟩
  else return .error (.configuration ("Configuration file not found: " ++ path))

/-- The paths where settings are looked for, in this order. -/
def candidates (files : FileView m) : m (List String) := do
  let working ← files.workingDirectory
  let user ← files.userDirectory
  return (working.map (joinPath · localName)).toList ++ (user.map (joinPath · userName)).toList

/-- The settings in the first file that exists, and the default settings if none does. -/
def loadFirst (files : FileView m) (decode : String → Except Toml.Fault Settings) :
    List String → m (Except Failure LoadedSettings)
  | [] => do
    files.log .defaultSettings
    return .ok ⟨{}, none⟩
  | path :: rest => do
    if ← files.isPresent path then
      files.log (.usingSettings path)
      loadFrom files decode path
    else
      files.log (.noSettings path)
      loadFirst files decode rest

def load (files : FileView m) (decode : String → Except Toml.Fault Settings) :
    m (Except Failure LoadedSettings) := do
  loadFirst files decode (← candidates files)

end Settings
end ChartText
