import ChartText.Command.Arguments
import ChartText.Command.Run

/-! # The program

The command line, on real files. -/

namespace ChartText

def systemMessage (e : IO.Error) : String :=
  match e with
  | .noFileOrDirectory _ code _ => s!"No such file or directory (os error {code})"
  | .inappropriateType _ code _ => s!"Is a directory (os error {code})"
  | .alreadyExists _ code _ => s!"File exists (os error {code})"
  | e => toString e

def caught (action : IO α) : IO (Except String α) := do
  try return .ok (← action)
  catch e => return .error (systemMessage e)

def textOf (bytes : ByteArray) : Except String String :=
  match String.fromUTF8? bytes with
  | some text => .ok text
  | none => .error "stream did not contain valid UTF-8"

partial def readAll (stream : IO.FS.Stream) (done : ByteArray) : IO ByteArray := do
  let bytes ← stream.read 65536
  if bytes.isEmpty then return done else readAll stream (done ++ bytes)

/-- A file can be opened, or there is another reason than its absence why it cannot. -/
def isThere (path : String) : IO Bool := do
  try
    let _ ← IO.FS.Handle.mk path .read
    return true
  catch
    | .noFileOrDirectory .. => return false
    | _ => return true

/-- The user's directory for the settings of this program. -/
def userSettingsDirectory : IO (Option String) := do
  match ← IO.getEnv "XDG_CONFIG_HOME" with
  | some directory =>
    if directory.toList.head? == some '/' then return some (joinPath directory "plainviz")
  | none => pure ()
  return (← IO.getEnv "HOME").map fun home => joinPath home ".config/plainviz"

/-! ### The log -/

def LogLevel.name : LogLevel → String
  | warning => "WARN"
  | info => "INFO"
  | debug => "DEBUG"
  | trace => "TRACE"

def Source.HeaderKey.name : Source.HeaderKey → String
  | type => "Type"
  | title => "Title"
  | subtitle => "Subtitle"
  | theme => "Theme"
  | xAxis => "XAxis"
  | yAxis => "YAxis"
  | legend => "Legend"
  | colors => "Colors"

def LogEvent.text : LogEvent → String
  | readingInput path => "reading input path=" ++ path
  | readingStandardInput => "reading input from stdin"
  | wroteOutput path bytes => "wrote output path=" ++ path ++ " bytes=" ++ toString bytes
  | settingsDisabled => "configuration disabled by --no-config"
  | usingSettings path => "using config file path=" ++ path
  | noSettings path => "no config file path=" ++ path
  | defaultSettings => "no config file found, using defaults"
  | wroteTemplate path => "wrote configuration template path=" ++ path
  | ignoredTheme reason => "ignoring document theme reason=" ++ reason
  | headerField line key => "header field line=" ++ toString line ++ " header=" ++ key.name
  | severalValues line count =>
    "multi-series row line=" ++ toString line ++ " series=" ++ toString count
  | readDocument type points =>
    "parsed document chart=" ++ type.name ++ " points=" ++ toString points
  | drawingChart type labels series width height =>
    "rendering chart chart=" ++ type.name ++ " labels=" ++ toString labels ++ " series=" ++
      toString series ++ " width=" ++ plainNumber width ++ " height=" ++ plainNumber height
  | laidOutSlices type slices =>
    "radial chart laid out chart=" ++ type.name ++ " slices=" ++ toString slices
  | embeddingCharts blocks => "embedding charts blocks=" ++ toString blocks

/-- The events of a level that is named, and of those that matter more. -/
def eventsOfLevel? (name : String) : Option (LogEvent → Bool) :=
  let upTo (rank : Nat) : LogEvent → Bool := fun e => e.level.rank ≤ rank
  match String.ofList (Text.lower name.toList) with
  | "off" | "error" => some (upTo 0)
  | "warn" => some (upTo LogLevel.warning.rank)
  | "info" => some (upTo LogLevel.info.rank)
  | "debug" => some (upTo LogLevel.debug.rank)
  | "trace" => some (upTo LogLevel.trace.rank)
  | _ => none

/-- The host of a process, with the events that its log shows. -/
def realHost (shown : IO.Ref (LogEvent → Bool)) : Host IO where
  isPresent := isThere
  readText path := do return (← caught (IO.FS.readBinFile path)).bind textOf
  workingDirectory := do return (← caught IO.currentDir).toOption.map (·.toString)
  userDirectory := userSettingsDirectory
  readStandardInput := do return (← caught (do readAll (← IO.getStdin) .empty)).bind textOf
  createDirectories path := caught (IO.FS.createDirAll path)
  writeText path text := caught (IO.FS.writeFile path text)
  printOutput text := do (← IO.getStdout).putStr text
  printError text := do (← IO.getStderr).putStr text
  log e := do
    if (← shown.get) e then
      (← IO.getStderr).putStrLn (e.level.name ++ " " ++ e.text)
  showEvents := shown.set
  requestedEvents := do return (← IO.getEnv "PLAINVIZ_LOG").bind eventsOfLevel?

def helpText : String :=
  "Turn plain \"Label: Value\" text into SVG charts\n\n" ++
  "Usage: plainviz [OPTIONS] <COMMAND>\n\n" ++
  "Commands:\n" ++
  "  parse   [INPUT] [-o OUTPUT]\n" ++
  "  render  [INPUT] [-c CONFIG] [-o OUTPUT] [-f svg|json] [--ir]\n" ++
  "          [--width N] [--height N] [--padding N] [--theme dark|light]\n" ++
  "  embed   [INPUT] [-c CONFIG] [-o OUTPUT] [--class-name NAME]\n" ++
  "  init    [-o OUTPUT] [--force]\n" ++
  "  config  validate [-c CONFIG] | show [-c CONFIG] [-f text|json]\n\n" ++
  "Options:\n" ++
  "  -v, --verbose   -q, --quiet   --color auto|always|never   --no-config\n" ++
  "  -h, --help      -V, --version\n"

def UsageFault.message : UsageFault → String
  | unknownArgument => "error: unexpected argument\n"
  | invalidValue => "error: a value is missing or is not one of the possible values\n"
  | malformedValue => "error: a value cannot be read\n"
  | unknownCommand => "error: unknown command\n"
  | repeatedOption => "error: an option is given more than once\n"
  | needlessValue => "error: an option that takes no value has one\n"
  | missingCommand => "error: a command is missing\n"
  | noArguments | help => helpText
  | version => "plainviz 0.1.0\n"

/-- Help and the version go to the output, everything else to the error stream. -/
def UsageFault.tell (fault : UsageFault) : IO Unit := do
  let stream ← if fault.exitCode = 0 then IO.getStdout else IO.getStderr
  stream.putStr fault.message

end ChartText

open ChartText in
def main (args : List String) : IO UInt32 := do
  match Invocation.ofArguments args with
  | .ok invocation =>
    let shown ← IO.mkRef fun _ => false
    return (← invocation.execute (realHost shown)).toUInt32
  | .error fault =>
    fault.tell
    return fault.exitCode.toUInt32
