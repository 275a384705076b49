import ChartText.Settings
import ChartText.Toml.Reader

/-! # Settings as TOML

`Settings.ofText` reads a settings file. Every field may be left out, and a file with a field that
does not exist is refused. -/

namespace ChartText

namespace Toml

/-- Whole numbers are taken as numbers too, if they fit into 64 bits with or without a sign. -/
def toFloat? : Toml → Option Float
  | .float x => some x
  | .integer n =>
    if -(Nat.pow 2 63 : Nat) ≤ n && n < (Nat.pow 2 64 : Nat) then
      some (if n < 0 then -Binary64.ofNat n.natAbs else Binary64.ofNat n.natAbs)
    else none
  | _ => none

def toText? : Toml → Option String
  | .string s => some s
  | _ => none

def toTexts? : Toml → Option (List String)
  | .array elements => elements.mapM toText?
  | _ => none

/-- The values of a record's fields. A record is a table, which may have no other keys, or an array
of the first so many values. -/
def record? (names : List String) (v : Toml) : Option (List (Option Toml)) :=
  match v with
  | .array elements => some ((List.range names.length).map (elements[·]?))
  | v => do
    let table ← v.entries?
    if table.all fun entry => names.contains entry.1 then
      return names.map fun name => (table.find? (·.1 == name)).map Prod.snd
    else none

def fieldOr (default : α) (read : Toml → Option α) : Option Toml → Option α
  | none => some default
  | some v => read v

end Toml

/-- A theme is its name, or a table with the name as the key of nothing. -/
def Theme.ofToml? (v : Toml) : Option Theme :=
  let named? (name : String) : Option Theme := [dark, light].find? (·.name == name)
  match v with
  | .string name => named? name
  | v =>
    match v.entries? with
    | some [(name, .array [])] => named? name
    | some [(name, nothing)] =>
      match nothing.entries? with
      | some [] => named? name
      | _ => none
    | _ => none

def DrawingSettings.ofToml? (v : Toml) : Option DrawingSettings := do
  let names := ["width", "height", "padding", "theme", "colors", "background_color", "text_color",
    "grid_color"]
  match ← v.record? names with
  | [width, height, padding, theme, colors, background, text, grid] =>
    let default : DrawingSettings := {}
    return {
      width := ← Toml.fieldOr default.width Toml.toFloat? width
      height := ← Toml.fieldOr default.height Toml.toFloat? height
      padding := ← Toml.fieldOr default.padding Toml.toFloat? padding
      theme := ← Toml.fieldOr none (fun v => (Theme.ofToml? v).map some) theme
      colors := ← Toml.fieldOr none (fun v => v.toTexts?.map some) colors
      backgroundColor := ← Toml.fieldOr none (fun v => v.toText?.map some) background
      textColor := ← Toml.fieldOr none (fun v => v.toText?.map some) text
      gridColor := ← Toml.fieldOr none (fun v => v.toText?.map some) grid }
  | _ => none

def EmbeddingSettings.ofToml? (v : Toml) : Option EmbeddingSettings := do
  match ← v.record? ["class_name", "languages"] with
  | [className, languages] =>
    let default : EmbeddingSettings := {}
    return {
      className := ← Toml.fieldOr default.className Toml.toText? className
      languages := ← Toml.fieldOr default.languages Toml.toTexts? languages }
  | _ => none

namespace Settings

def ofToml? (v : Toml) : Option Settings := do
  match ← v.record? ["render", "embed"] with
  | [drawing, embedding] =>
    return {
      drawing := ← Toml.fieldOr {} DrawingSettings.ofToml? drawing
      embedding := ← Toml.fieldOr {} EmbeddingSettings.ofToml? embedding }
  | _ => none

def ofText (text : String) : Except Toml.Fault Settings :=
  match Toml.parse? text with
  | none => .error { message := "the text is not TOML" }
  | some root =>
    match ofToml? (.headed root) with
    | none => .error { message := "the entries are no settings" }
    | some s => .ok s

end Settings
end ChartText
