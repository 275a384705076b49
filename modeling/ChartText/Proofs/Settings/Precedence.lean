import ChartText.Command

/-! # What goes before what

A drawing is told what to look like by the options of the command, the settings of a file, the
document and the theme. Where several of them speak, the first one that is set decides, and for the
palettes the first one that is not empty (`RenderRequest.override_layers`). -/

namespace ChartText

section
variable {α : Type}

/-- The value of the first layer that has one. -/
def firstSet? (layers : List (Option α)) : Option α :=
  layers.findSome? id

/-- The first list with something in it. -/
def firstListed? (layers : List (List α)) : Option (List α) :=
  layers.find? (!·.isEmpty)

theorem firstSet?_cons (layer : Option α) (layers : List (Option α)) :
    firstSet? (layer :: layers) = (layer <|> firstSet? layers) := by
  cases layer <;> rfl

theorem firstSet?_pair (layer : Option α) (x : α) :
    firstSet? [layer, some x] = some (layer.getD x) := by
  cases layer <;> rfl

theorem firstListed?_nil_cons (layers : List (List α)) :
    firstListed? ([] :: layers) = firstListed? layers := rfl

theorem firstListed?_cons {first : List α} (h : first ≠ []) (layers : List (List α)) :
    firstListed? (first :: layers) = some first := by
  rw [firstListed?, List.find?_cons_of_pos]
  simpa using h

theorem ne_nil_of_firstListed? {layers : List (List α)} {first : List α}
    (h : firstListed? layers = some first) : first ≠ [] := by
  simpa using List.find?_some h

end

/-! ### Palettes -/

theorem Theme.palette_ne_nil (t : Theme) : t.palette ≠ [] := by
  cases t <;> exact List.cons_ne_nil _ _

theorem exists_firstListed? (colors : List (List String)) (t : Theme) :
    ∃ palette, firstListed? (colors ++ [t.palette]) = some palette := by
  rw [← Option.isSome_iff_exists, firstListed?, List.find?_isSome]
  exact ⟨t.palette, by simp, by simpa using t.palette_ne_nil⟩

/-- No position is out of the range of a palette, since positions start over at its end. -/
theorem getElem?_paletteColor {colors palette : List String} (i : Nat)
    (h : firstListed? [colors, Theme.dark.palette] = some palette) :
    palette[i % palette.length]? = some (paletteColor colors i) := by
  have hpalette : (if colors.isEmpty then Theme.dark.palette else colors) = palette := by
    cases colors with
    | nil => exact Option.some.inj h
    | cons color rest => exact Option.some.inj h
  have hlt : i % palette.length < palette.length :=
    Nat.mod_lt i (List.length_pos_iff.mpr (ne_nil_of_firstListed? h))
  unfold paletteColor
  dsimp only
  rw [hpalette, List.getElem?_eq_getElem hlt, Option.getD_some]

namespace Chart
variable (c : Chart)

/-- The colours that a document lists. -/
def listedColors (c : Chart) : List String :=
  (c.hints.bind (·.colors)).getD []

theorem getD_customColors? (colors : List String) :
    c.customColors?.getD colors = if c.listedColors = [] then colors else c.listedColors := by
  unfold customColors? listedColors
  match c.hints.bind (·.colors) with
  | none | some [] | some (_ :: _) => rfl

/-- Whatever the options are, even without a single colour, there is a colour to look up. -/
theorem getElem?_color {o : Options} {palette : List String} (i : Nat)
    (h : firstListed? [c.listedColors, o.colors, Theme.dark.palette] = some palette) :
    palette[i % palette.length]? = some (c.color o i) := by
  refine getElem?_paletteColor i (Eq.trans ?_ h)
  rw [getD_customColors?]
  split
  · next hnone => rw [hnone, firstListed?_nil_cons]
  · next hsome => rw [firstListed?_cons hsome, firstListed?_cons hsome]

theorem theme?_eq_some_iff {theme : Theme} :
    c.theme? = some theme ↔ ∃ name, c.hints.bind (·.theme) = some name ∧
      Text.lower (Text.trim name.toList) = theme.name.toList := by
  have hname : ∀ name, Theme.ofName? name = some theme ↔
      Text.lower (Text.trim name.toList) = theme.name.toList := by
    intro name
    unfold Theme.ofName?
    generalize Text.lower (Text.trim name.toList) = key
    dsimp only
    split
    · next hdark =>
      rw [eq_of_beq hdark]
      cases theme <;> decide
    · next hdark =>
      split
      · next hlight =>
        rw [eq_of_beq hlight]
        cases theme <;> decide
      · next hlight =>
        rw [beq_iff_eq] at hdark hlight
        cases theme with
        | dark => exact iff_of_false nofun hdark
        | light => exact iff_of_false nofun hlight
  simp only [theme?, Option.bind_eq_some_iff, hname]

end Chart

/-! ### Options -/

namespace DrawingSettings
variable (s : DrawingSettings) (documentTheme : Option Theme)

theorem options_eq :
    let theme := s.resolvedTheme documentTheme
    s.options documentTheme =
      { canvas := s.canvas
        colors := (s.options documentTheme).colors
        backgroundColor := s.backgroundColor.getD theme.backgroundColor
        textColor := s.textColor.getD theme.textColor
        gridColor := s.gridColor.getD theme.gridColor
        mutedColor := theme.mutedColor } := by
  unfold options Options.withColors
  dsimp only
  split <;> rfl

theorem colors_options :
    firstListed? [s.colors.getD [], (s.resolvedTheme documentTheme).palette] =
      some (s.options documentTheme).colors := by
  unfold options Options.withColors
  generalize s.resolvedTheme documentTheme = theme
  cases s.colors.getD [] with
  | nil => exact firstListed?_cons theme.palette_ne_nil []
  | cons color rest => rfl

end DrawingSettings

/-- The options are what the layers make of them: for each of their fields, and for the colours of
the chart, the first layer that speaks decides. -/
structure IsLaidOver (r : RenderRequest) (s : DrawingSettings) (c : Chart) (theme : Theme)
    (o : Options) : Prop where
  resolved : firstSet? [r.theme, s.theme, c.theme?, some .dark] = some theme
  width : firstSet? [r.width, some s.width] = some o.canvas.width
  height : firstSet? [r.height, some s.height] = some o.canvas.height
  padding : firstSet? [r.padding, some s.padding] = some o.canvas.padding
  background : firstSet? [s.backgroundColor, some theme.backgroundColor] = some o.backgroundColor
  text : firstSet? [s.textColor, some theme.textColor] = some o.textColor
  grid : firstSet? [s.gridColor, some theme.gridColor] = some o.gridColor
  muted : o.mutedColor = theme.mutedColor
  palette : ∃ palette, firstListed? [c.listedColors, s.colors.getD [], theme.palette] = some palette ∧
    ∀ i, palette[i % palette.length]? = some (c.color o i)
  series : ∀ (series : Series) (i : Nat),
    firstSet? [series.color, some (c.color o i)] = some (c.seriesColor o series i)

namespace RenderRequest
variable (r : RenderRequest) (s : DrawingSettings)

theorem resolvedTheme_override (documentTheme : Option Theme) :
    firstSet? [r.theme, s.theme, documentTheme, some .dark] =
      some ((r.override s).resolvedTheme documentTheme) := by
  rw [firstSet?_cons, firstSet?_cons, firstSet?_pair]
  unfold DrawingSettings.resolvedTheme override
  cases r.theme with
  | some theme => rfl
  | none => cases s.theme <;> rfl

theorem isLaidOver (c : Chart) :
    IsLaidOver r s c ((r.override s).resolvedTheme c.theme?) ((r.override s).optionsFor c) := by
  rw [DrawingSettings.optionsFor, DrawingSettings.options_eq]
  refine
    { resolved := r.resolvedTheme_override s c.theme?
      width := firstSet?_pair r.width s.width
      height := firstSet?_pair r.height s.height
      padding := firstSet?_pair r.padding s.padding
      background := firstSet?_pair _ _
      text := firstSet?_pair _ _
      grid := firstSet?_pair _ _
      muted := rfl
      palette := ?_
      series := fun _ _ => firstSet?_pair _ _ }
  have hcolors := (r.override s).colors_options c.theme?
  obtain ⟨palette, hpalette⟩ := exists_firstListed?
    [c.listedColors, s.colors.getD []] ((r.override s).resolvedTheme c.theme?)
  refine ⟨palette, hpalette, fun i => c.getElem?_color i (Eq.trans ?_ hpalette)⟩
  by_cases hlisted : c.listedColors = []
  · rw [hlisted, firstListed?_nil_cons, firstListed?_cons (ne_nil_of_firstListed? hcolors)]
    exact hcolors.symm
  · rw [firstListed?_cons hlisted, List.cons_append, firstListed?_cons hlisted]

/-- The options are laid over each other field by field, and a theme of the document counts if it is
dark or light in some spelling. Of the document they depend on the name of its theme alone, and if
the command or the file sets a theme, on nothing. No colour is looked up out of range, whatever the
options are. -/
theorem override_layers (r : RenderRequest) (s : DrawingSettings) (c : Chart) :
    (∃ theme, IsLaidOver r s c theme ((r.override s).optionsFor c)) ∧
    (∀ theme, c.theme? = some theme ↔ ∃ name, c.hints.bind (·.theme) = some name ∧
      Text.lower (Text.trim name.toList) = theme.name.toList) ∧
    (∀ d : Chart, d.hints.bind (·.theme) = c.hints.bind (·.theme) ∨ r.theme ≠ none ∨ s.theme ≠ none →
      (r.override s).optionsFor d = (r.override s).optionsFor c) ∧
    ∀ (o : Options) (i : Nat), ∃ palette,
      firstListed? [c.listedColors, o.colors, Theme.dark.palette] = some palette ∧
        0 < palette.length ∧ palette[i % palette.length]? = some (c.color o i) := by
  refine ⟨⟨_, r.isLaidOver s c⟩, fun theme => c.theme?_eq_some_iff, fun d hd => ?_, fun o i => ?_⟩
  · have htheme : (r.override s).resolvedTheme d.theme? = (r.override s).resolvedTheme c.theme? := by
      rcases hd with hname | hset
      · rw [Chart.theme?, hname, Chart.theme?]
      · refine Option.some.inj ?_
        rw [← resolvedTheme_override, ← resolvedTheme_override]
        rcases hset with hset | hset
        · obtain ⟨theme, htheme⟩ := Option.ne_none_iff_exists'.mp hset
          rw [htheme]
          rfl
        · obtain ⟨theme, htheme⟩ := Option.ne_none_iff_exists'.mp hset
          rw [htheme]
          cases r.theme <;> rfl
    unfold DrawingSettings.optionsFor DrawingSettings.options
    rw [htheme]
  · obtain ⟨palette, hpalette⟩ :=
      exists_firstListed? [c.listedColors, o.colors] Theme.dark
    exact ⟨palette, hpalette, List.length_pos_iff.mpr (ne_nil_of_firstListed? hpalette),
      c.getElem?_color i hpalette⟩

/-- A light chart, since the command says so. The empty list of the file is passed over, and so is
the theme of the document. -/
theorem override_layers_light :
    let r : RenderRequest := { width := some 640.0, theme := some .light }
    let s : DrawingSettings := { theme := some .dark, colors := some [], gridColor := some "gray" }
    let c : Chart :=
      { labels := ["A"], values := [1.0]
        hints := some { theme := some " DARK", colors := some ["red", "blue"] } }
    let d : Chart := { labels := [], values := [] }
    IsLaidOver r s c .light ((r.override s).optionsFor c) ∧ c.theme? = some .dark ∧
      c.color ((r.override s).optionsFor c) 3 = "blue" ∧
      (r.override s).optionsFor d = (r.override s).optionsFor c := by
  intro r s c d
  obtain ⟨⟨theme, hlaid⟩, hname, hcongr, -⟩ := override_layers r s c
  obtain rfl : theme = .light := (Option.some.inj hlaid.resolved).symm
  exact ⟨hlaid, (hname .dark).mpr ⟨" DARK", rfl, by decide⟩, by decide +kernel,
    hcongr d (.inr (.inl nofun))⟩

end RenderRequest

end ChartText
