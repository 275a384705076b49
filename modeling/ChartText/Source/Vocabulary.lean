import ChartText.Chart
import ChartText.Text.Case

/-! # The vocabulary of documents

Which keys set a field of the header, and which chart types a document may ask for. -/

namespace ChartText.Source

inductive HeaderKey
  | type
  | title
  | subtitle
  | theme
  | xAxis
  | yAxis
  | legend
  | colors
deriving Repr, DecidableEq

structure Vocabulary where
  /-- The spellings of the header keys, in lower case. -/
  headerKeys : List (String × HeaderKey)
  /-- In the order of suggestions. -/
  chartTypes : List ChartType

namespace Vocabulary

def standard : Vocabulary where
  headerKeys :=
    [("type", .type), ("title", .title), ("subtitle", .subtitle), ("theme", .theme),
      ("x-axis", .xAxis), ("x", .xAxis), ("y-axis", .yAxis), ("y", .yAxis),
      ("legend", .legend), ("colors", .colors)]
  chartTypes := ChartType.all

def headerKey? (v : Vocabulary) (key : List Char) : Option HeaderKey :=
  (v.headerKeys.find? fun entry => Text.sameIgnoringCase entry.1.toList key).map Prod.snd

def chartType? (v : Vocabulary) (name : List Char) : Option ChartType :=
  v.chartTypes.find? fun type => Text.sameIgnoringCase type.name.toList name

def typeList (v : Vocabulary) : String :=
  ", ".intercalate (v.chartTypes.map ChartType.name)

/-- The first chart type that begins like the unknown name, or whose first letter occurs in it, and
bar charts if there is none. Case does not matter. Lowering the ASCII letters suffices: no chart
type begins with a letter that any other capital lowers to. -/
def suggestion (v : Vocabulary) (unknown : List Char) : ChartType :=
  let lowered := Text.lower unknown
  let fits (type : ChartType) : Bool :=
    match type.name.toList with
    | [] => false
    | initial :: _ => lowered.head? == some initial || lowered.contains initial
  (v.chartTypes.find? fits).getD .bar

end Vocabulary
end ChartText.Source
