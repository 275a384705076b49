import ChartText.Source.Vocabulary

/-! # The log

The program logs what it does. An event is data here: how it is written, and when it happened, is
left to whoever shows it. -/

namespace ChartText

inductive LogLevel
  | warning
  | info
  | debug
  | trace
deriving Repr, DecidableEq

/-- The less an event matters, the higher its rank. -/
def LogLevel.rank : LogLevel → Nat
  | warning => 1
  | info => 2
  | debug => 3
  | trace => 4

inductive LogEvent
  | readingInput (path : String)
  | readingStandardInput
  | wroteOutput (path : String) (bytes : Nat)
  /-- The default settings are asked for. -/
  | settingsDisabled
  | usingSettings (path : String)
  /-- A candidate for the settings file does not exist. -/
  | noSettings (path : String)
  | defaultSettings
  | wroteTemplate (path : String)
  /-- The document asks for a theme that does not exist. -/
  | ignoredTheme (reason : String)
  | headerField (line : Nat) (key : Source.HeaderKey)
  | severalValues (line count : Nat)
  | readDocument (type : ChartType) (points : Nat)
  | drawingChart (type : ChartType) (labels series : Nat) (width height : Float)
  | laidOutSlices (type : ChartType) (slices : Nat)
  | embeddingCharts (blocks : Nat)
deriving Repr, DecidableEq

def LogEvent.level : LogEvent → LogLevel
  | ignoredTheme _ => .warning
  | readingInput _ | readingStandardInput | wroteOutput .. | settingsDisabled | usingSettings _
  | defaultSettings | wroteTemplate _ | readDocument .. | drawingChart .. | embeddingCharts _ =>
    .debug
  | noSettings _ | headerField .. | severalValues .. | laidOutSlices .. => .trace

/-- Takes events as they happen. -/
structure Logger (m : Type → Type) where
  log : LogEvent → m Unit

namespace Logger

variable {m : Type → Type} [Monad m]

def logAll (logger : Logger m) (events : List LogEvent) : m Unit :=
  events.forM logger.log

end Logger
end ChartText
