import ChartText.Svg.Element
import ChartText.Text.Lines

/-! # Drawings as documents

A `Document` is a canvas with a title, a description, a background and elements. Every line of an
element's text is indented by one step. -/

namespace ChartText.Svg

structure Document where
  width : Float
  height : Float
  /-- The accessible name; there is none if it is empty. -/
  title : String := ""
  /-- The accessible description; there is none if it is empty. -/
  description : String := ""
  background : Option String := none
  elements : List Element := []

namespace Document

def rootTag (d : Document) : Tag where
  name := "svg"
  attributes :=
    [("xmlns", .text "http://www.w3.org/2000/svg"), ("width", .number d.width),
      ("height", .number d.height),
      ("viewBox", .text (phrase ["0", "0", plainNumber d.width, plainNumber d.height])),
      ("role", .text "img")]

/-- The title, the description and the background, as far as they are present. -/
def frame (d : Document) : List Markup :=
  (if d.title.isEmpty then [] else [.text ⟨"title", []⟩ d.title]) ++
  (if d.description.isEmpty then [] else [.text ⟨"desc", []⟩ d.description]) ++
  (d.background.map fun color => Markup.empty
    { name := "rect"
      attributes := [("width", .text "100%"), ("height", .text "100%"),
        ("fill", .text color)] }).toList

/-- The lines of an element, indented, each with its line ending. -/
def writeElement (e : Element) : String :=
  String.join ((Text.lines e.write.toList).map fun line => indent ++ String.ofList line ++ "\n")

def write (d : Document) : String :=
  d.rootTag.opening ++ "\n" ++
    String.join (d.frame.map fun m => indent ++ m.write ++ "\n") ++
    String.join (d.elements.map writeElement) ++ d.rootTag.closing

end Document
end ChartText.Svg
