import ChartText.Command
import ChartText.Command.Host
import ChartText.Events
import ChartText.Report
import ChartText.Settings.Json
import ChartText.Settings.Template
import ChartText.Settings.Text
import ChartText.Settings.Toml

/-! # Running commands

`Invocation.run` carries out a command and gives its exit code. A command takes its steps in a fixed
order, settings, input, document, output, and ends with the first one that fails. The whole program,
`Invocation.execute`, fixes before that what the log shows. -/

namespace ChartText

variable {m : Type → Type} [Monad m]

namespace Invocation

/-- The settings in effect: those of a file that is named, or of the first one that is found. -/
def loadSettings (host : Host m) (inv : Invocation) (path : Option String) :
    ExceptT Failure m LoadedSettings :=
  if inv.ignoresSettings then do
    host.log .settingsDisabled
    return ⟨{}, none⟩
  else
    match path with
    | some path => .mk (Settings.loadFrom host.toFileView Settings.ofText path)
    | none => .mk (Settings.load host.toFileView Settings.ofText)

def tell (host : Host m) (inv : Invocation) (report : Report) : m Unit :=
  host.printError (report.write (inv.color == .always))

/-- Prints a line, unless the command is to be quiet. -/
def announce (host : Host m) (inv : Invocation) (line : String) : m Unit :=
  if inv.quiet then return () else host.printOutput (line ++ "\n")

/-! ### The commands -/

def runParse (host : Host m) (input output : Option String) : ExceptT Failure m Nat := do
  let text ← host.readInput input
  host.logAll (documentEvents text)
  let json ← documentToJson text
  host.writeOutput output json
  return 0

def runRender (host : Host m) (inv : Invocation) (r : RenderRequest) : ExceptT Failure m Nat := do
  let loaded ← inv.loadSettings host r.settings
  let settings := r.override loaded.settings.drawing
  let text ← host.readInput r.input
  host.logAll (settings.pictureEvents r.form text)
  match r.format with
  | .svg =>
    let svg ← settings.picture r.form text
    host.writeOutput r.output (svg ++ "\n")
    return 0
  | .json =>
    let envelope ← settings.envelope r.form text
    host.writeOutput r.output (envelope.text ++ "\n")
    return if envelope.isOk then 0 else 1

def noBlocksReport : Report :=
  .warning "No chart blocks found" none (some "Fence charts with ```plainviz or ```pv")

def runEmbed (host : Host m) (inv : Invocation) (r : EmbedRequest) : ExceptT Failure m Nat := do
  let loaded ← inv.loadSettings host r.settings
  let settings : Settings :=
    { loaded.settings with embedding := r.override loaded.settings.embedding }
  let markdown ← host.readInput r.input
  let blocks := settings.embedding.chartBlocks markdown
  host.logAll (settings.embeddingEvents blocks)
  host.writeOutput r.output (settings.replaceBlocks markdown blocks)
  if blocks.isEmpty && !inv.quiet then
    (inv.tell host noBlocksReport : m Unit)
  return 0

def runInit (host : Host m) (inv : Invocation) (output : String) (force : Bool) :
    ExceptT Failure m Nat := do
  if (← host.isPresent output) && !force then
    throw (.configuration ("Configuration file already exists: " ++ output ++
      ". Use --force to overwrite."))
  Host.attempt (host.writeText output Settings.template)
  host.log (.wroteTemplate output)
  (inv.announce host ("Created configuration file: " ++ output) : m Unit)
  return 0

def runValidateSettings (host : Host m) (inv : Invocation) (path : String) :
    ExceptT Failure m Nat := do
  let _ ← ExceptT.mk (Settings.loadFrom host.toFileView Settings.ofText path)
  (inv.announce host ("Configuration is valid: " ++ path) : m Unit)
  return 0

def runShowSettings (host : Host m) (inv : Invocation) (path : Option String)
    (format : SettingsFormat) : ExceptT Failure m Nat := do
  let loaded ← inv.loadSettings host path
  host.printOutput <| match format with
    | .text => loaded.text
    | .json => loaded.settings.toJson.pretty ++ "\n"
  return 0

/-! ### All together -/

/-- The exit code of a command that does not fail. -/
def runCommand (host : Host m) (inv : Invocation) : ExceptT Failure m Nat :=
  match inv.command with
  | .parse input output => runParse host input output
  | .render request => runRender host inv request
  | .embed request => runEmbed host inv request
  | .init output force => runInit host inv output force
  | .validateSettings path => runValidateSettings host inv path
  | .showSettings path format => runShowSettings host inv path format

/-- Carries out a command, reports its failure if there is one, and gives the exit code. -/
def run (host : Host m) (inv : Invocation) : m Nat := do
  match ← (inv.runCommand host).run with
  | .ok code => return code
  | .error failure =>
    inv.tell host (.ofFailure failure)
    return failure.exitCode

/-- The whole program. What is logged is up to the environment, and else to the options. -/
def execute (host : Host m) (inv : Invocation) : m Nat := do
  host.showEvents ((← host.requestedEvents).getD inv.shows)
  inv.run host

end Invocation
end ChartText
