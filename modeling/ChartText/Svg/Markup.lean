import ChartText.Number.Numeral
import ChartText.Text.Escape

/-! # Markup

A piece of markup is a tag with attributes, perhaps with a text or a caption inside. Texts are
escaped where they are written; names of tags and attributes are written as they are. -/

namespace ChartText.Svg

inductive Value
  | number (x : Float)
  | text (s : String)
  /-- Drawing commands, which are written as they are. -/
  | commands (s : String)

structure Tag where
  name : String
  attributes : List (String × Value)

inductive Markup
  | empty (tag : Tag)
  | text (tag : Tag) (content : String)
  /-- A tag around a `title` on a line of its own. -/
  | captioned (tag : Tag) (caption : String)

def Value.write : Value → String
  | number x => plainNumber x
  | text s => Text.escape s
  | commands s => s

namespace Tag

def writeAttribute : String × Value → String
  | (name, value) => " " ++ name ++ "=\"" ++ value.write ++ "\""

def body (t : Tag) : String :=
  t.name ++ String.join (t.attributes.map writeAttribute)

def opening (t : Tag) : String :=
  "<" ++ t.body ++ ">"

def closing (t : Tag) : String :=
  "</" ++ t.name ++ ">"

end Tag

def indent : String := "    "

namespace Markup

def write : Markup → String
  | empty tag => "<" ++ tag.body ++ "/>"
  | text tag content => tag.opening ++ Text.escape content ++ tag.closing
  | captioned tag caption =>
    tag.opening ++ "\n" ++ indent ++ "<title>" ++ Text.escape caption ++ "</title>\n" ++ tag.closing

end Markup
end ChartText.Svg
