import ChartText.Proofs.Drawing.Documents
import ChartText.Proofs.Drawing.Filled
import ChartText.Proofs.Drawing.Messages
import ChartText.Proofs.Markdown.Html
import ChartText.Proofs.Rendering.FrontEnds

/-! # Embedded charts are one block

What stands in the place of a chart has something on every line, whether it is a picture or tells
what is wrong (`Settings.blockMarkup_unbroken`). So no blank line ends the block of HTML that a
picture begins in the Markdown around it. -/

namespace ChartText

open Text (IsLine Filled IsIndented)

/-- The class and the colours of the settings. -/
structure Settings.IsOneLine (s : Settings) : Prop where
  className : IsLine s.embedding.className
  colors : ∀ colors, s.drawing.colors = some colors → ∀ color ∈ colors, IsLine color
  backgroundColor : ∀ color, s.drawing.backgroundColor = some color → IsLine color
  textColor : ∀ color, s.drawing.textColor = some color → IsLine color
  gridColor : ∀ color, s.drawing.gridColor = some color → IsLine color

/-! ### Options -/

theorem Theme.isLine_color (theme : Theme) : ∀ color ∈ [theme.backgroundColor, theme.textColor,
    theme.gridColor, theme.mutedColor], IsLine color := by
  cases theme <;> decide

theorem Options.isOneLine_themedOn (canvas : Canvas Float) (theme : Theme) :
    (themedOn canvas theme).IsOneLine where
  colors := Drawing.isLine_palette theme
  backgroundColor := theme.isLine_color _ (by simp [themedOn])
  textColor := theme.isLine_color _ (by simp [themedOn])
  gridColor := theme.isLine_color _ (by simp [themedOn])
  mutedColor := theme.isLine_color _ (by simp [themedOn])

theorem Options.forall_mem_withColors {o : Options} {colors : List String} {p : String → Prop}
    (ho : ∀ color ∈ o.colors, p color) (hcolors : ∀ color ∈ colors, p color) :
    ∀ color ∈ (o.withColors colors).colors, p color := by
  unfold withColors
  split
  · exact ho
  · exact hcolors

theorem Options.mutedColor_withColors (o : Options) (colors : List String) :
    (o.withColors colors).mutedColor = o.mutedColor := by
  unfold withColors
  split <;> rfl

theorem isLine_getD {color : Option String} {default : String} (hdefault : IsLine default)
    (h : ∀ s, color = some s → IsLine s) : IsLine (color.getD default) := by
  cases color with
  | none => exact hdefault
  | some s => exact h s rfl

theorem Settings.IsOneLine.options {s : Settings} (h : s.IsOneLine) (theme : Option Theme) :
    (s.drawing.options theme).IsOneLine := by
  have hthemed := Options.isOneLine_themedOn s.drawing.canvas (s.drawing.resolvedTheme theme)
  refine ⟨Options.forall_mem_withColors hthemed.colors ?_, ?_, ?_, ?_, ?_⟩
  · cases hcolors : s.drawing.colors with
    | none => exact fun color hcolor => absurd hcolor List.not_mem_nil
    | some colors => exact h.colors colors hcolors
  · exact isLine_getD hthemed.backgroundColor h.backgroundColor
  · exact isLine_getD hthemed.textColor h.textColor
  · exact isLine_getD hthemed.gridColor h.gridColor
  · rw [DrawingSettings.options, Options.mutedColor_withColors]
    exact hthemed.mutedColor

/-! ### What is wrong -/

theorem Chart.isLine_message_of_render {v : Source.Vocabulary} {source : String} {c : Chart}
    (hparse : Source.parse v source = .ok c) {o : Options} {e : RenderError}
    (h : c.render o = .error e) : IsLine e.message := by
  refine e.notMem_message rfl ?_
  rintro type label value rfl
  obtain ⟨-, -, row, hrow, rfl, -⟩ := (render_eq_negativeSlice_iff hparse o).mp h
  exact (Source.of_mem_rowsOf (fun l hl => (List.dropWhile_suffix _).subset hl)
    (List.mem_of_find?_eq_some hrow)).1.no_line_feed

theorem Source.filled_joined {v : Vocabulary} {source : String} {ds : List Diagnostic}
    (h : parse v source = .error ds) :
    Filled ("\n".intercalate (ds.map Diagnostic.text)).toList := by
  intro line hline
  rw [cutLines_joined h] at hline
  obtain ⟨d, -, rfl⟩ := List.mem_map.mp hline
  change IsIndented ("Line " ++ toString d.line ++ ": " ++ toString d.message).toList
  rw [String.toList_append, String.toList_append, String.toList_append]
  exact (((Text.isIndented_cons (by decide) _).append _).append _).append _

namespace Settings
variable {s : Settings} {source : String}

/-! ### Markup -/

theorem filled_errorMarkup {message : String} (h : Filled message.toList) :
    Filled (errorMarkup message).toList := by
  unfold errorMarkup Text.escape
  simp only [String.toList_append, String.toList_ofList]
  refine (h.escapeChars.prepend (by simp) ?_).append (by simp)
  exact Text.isIndented_cons (by decide) _

/-- What stands in the place of a chart has no line that is empty or blank. -/
theorem filled_blockMarkup (hs : s.IsOneLine) (source : String) :
    Filled (s.blockMarkup source).toList := by
  rcases ChartForm.read_document_cases source with ⟨c, hread, hparse⟩ | ⟨ds, hread, hparse⟩
  · have hpicture := DrawingSettings.picture_of_read (s := s.drawing) hread
    cases hdraw : s.drawing.draw c with
    | ok svg =>
      rw [hdraw] at hpicture
      have hsvg : Filled svg.toList :=
        Chart.filled_render (Source.isOneLine_of_parse hparse) (hs.options c.theme?) hdraw
      have hclass : '\n' ∉ (Text.escape s.embedding.className).toList := hs.className.escape
      simp only [blockMarkup, hpicture, String.toList_append]
      refine Filled.append (hsvg.prepend ?_ (Text.isIndented_cons (by decide) _)) (by simp)
      simp [hclass]
    | error e =>
      rw [hdraw] at hpicture
      have hline : IsLine ("Render error: " ++ e.message) :=
        IsLine.append (by decide) (Chart.isLine_message_of_render hparse hdraw)
      simp only [blockMarkup, hpicture]
      refine filled_errorMarkup (Text.filled_of_isIndented hline ?_)
      change IsIndented ("Render error: " ++ e.message).toList
      rw [String.toList_append]
      exact (Text.isIndented_cons (by decide) _).append _
  · have hpicture := DrawingSettings.picture_of_diagnostics (s := s.drawing) hread
    simp only [blockMarkup, hpicture]
    exact filled_errorMarkup (Source.filled_joined hparse)

/-- No line of what stands in the place of a chart is empty or blank, and so a picture is read as
one block of HTML, from its `<div>` on. -/
theorem blockMarkup_unbroken (s : Settings) (hs : s.IsOneLine) (source : String) :
    (∀ line ∈ Text.cutLines (s.blockMarkup source).toList, Text.isAllBlank line = false) ∧
      ∀ svg, s.drawing.picture .document source = .ok svg →
        Markdown.IsHtmlBlock (s.blockMarkup source).toList := by
  have hfilled := filled_blockMarkup hs source
  refine ⟨fun line hline => (hfilled line hline).isAllBlank_eq_false, fun svg hsvg => ?_⟩
  refine Markdown.isHtmlBlock_of_filled ?_ hfilled
  simp only [blockMarkup, hsvg, String.toList_append, List.append_assoc]
  exact ⟨_, rfl⟩

/-- A line chart whose title is cut by carriage returns, with colours that are blank. -/
theorem blockMarkup_unbroken_of_returns :
    let s : Settings :=
      { drawing := { colors := some ["\t", ""], textColor := some "\r" }
        embedding := { className := "a b\r" } }
    let source := "Type: line\nTitle: a\r\rb\n\nA: 1\nB: 2"
    (s.drawing.picture .document source).toOption.isSome = true ∧
      (∀ line ∈ Text.cutLines (s.blockMarkup source).toList, Text.isAllBlank line = false) ∧
      Markdown.IsHtmlBlock (s.blockMarkup source).toList := by
  intro s source
  have hs : s.IsOneLine := by
    refine ⟨by decide +kernel, ?_, by rintro color ⟨⟩, ?_, by rintro color ⟨⟩⟩
    · rintro colors ⟨⟩
      decide +kernel
    · rintro color ⟨⟩
      decide +kernel
  have hpicture : (s.drawing.picture .document source).toOption.isSome = true := by decide +kernel
  obtain ⟨hlines, hblock⟩ := blockMarkup_unbroken s hs source
  refine ⟨hpicture, hlines, ?_⟩
  cases h : s.drawing.picture .document source with
  | error failure =>
    rw [h] at hpicture
    cases hpicture
  | ok svg => exact hblock svg h

end Settings
end ChartText
