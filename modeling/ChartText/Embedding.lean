import ChartText.Markdown.Block
import ChartText.Rendering
import ChartText.Text.Blank
import ChartText.Text.Escape

/-! # Charts in Markdown

A fenced code block in one of the chart languages is replaced by the picture of its chart, or by
what is wrong with it. Everything else is left as it is. -/

namespace ChartText

/-- A piece of a Markdown text that holds a chart. -/
structure ChartBlock where
  /-- The first byte of the piece, and the first one after it. -/
  start : Nat
  stop : Nat
  source : String
deriving Repr, DecidableEq

namespace EmbeddingSettings

/-- The first word after a fence is one of the chart languages, whatever its case. -/
def isChartInfo (s : EmbeddingSettings) (info : List Char) : Bool :=
  match Text.firstWord? info with
  | none => false
  | some word => s.languages.any fun language => Text.sameIgnoringCase language.toList word

def chartBlocks (s : EmbeddingSettings) (markdown : String) : List ChartBlock :=
  ((Markdown.fencedBlocks markdown.toList).filter fun block => s.isChartInfo block.info).map
    fun block => ⟨block.start, block.stop, String.ofList block.text⟩

end EmbeddingSettings

namespace Settings

def errorMarkup (message : String) : String :=
  "<pre class=\"plainviz-error\"><code>" ++ Text.escape message ++ "</code></pre>"

def blockMarkup (s : Settings) (source : String) : String :=
  match s.drawing.picture .document source with
  | .ok svg => "<div class=\"" ++ Text.escape s.embedding.className ++ "\">" ++ svg ++ "</div>"
  | .error (.document diagnostics) =>
    errorMarkup ("\n".intercalate (diagnostics.map Diagnostic.text))
  | .error failure => errorMarkup failure.text

/-- Replaces blocks in the rest of a text after the first `position` bytes. A block that ends with a
line feed keeps it. -/
def replaceFrom (s : Settings) (position : Nat) (rest : List Char) :
    List ChartBlock → List Char
  | [] => rest
  | block :: blocks =>
    let (before, fromBlock) := Text.cutBytes (block.start - position) rest
    let (replaced, after) := Text.cutBytes (block.stop - block.start) fromBlock
    let lineFeed := if replaced.getLast? == some '\n' then ['\n'] else []
    before ++ (s.blockMarkup block.source).toList ++ lineFeed ++
      s.replaceFrom block.stop after blocks

def replaceBlocks (s : Settings) (markdown : String) (blocks : List ChartBlock) : String :=
  String.ofList (s.replaceFrom 0 markdown.toList blocks)

def embed (s : Settings) (markdown : String) : String :=
  s.replaceBlocks markdown (s.embedding.chartBlocks markdown)

end Settings
end ChartText
