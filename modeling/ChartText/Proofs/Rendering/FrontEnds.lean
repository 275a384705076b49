import ChartText.Embedding
import ChartText.Proofs.Rendering.Envelope
import ChartText.Proofs.Source.Messages
import ChartText.Proofs.Text.Unescape

/-! # The front ends of a document

A document is drawn on its own, in an envelope, or in the place of a block of Markdown. The three
agree on every document (`Settings.frontEnds_agree`): each of them tells of the same chart and
picture, of the same diagnostics, or of the same reason why the chart cannot be drawn. -/

namespace ChartText

/-- The JSON value that the text of a document's envelope is read as. -/
def DrawingSettings.envelopeJson? (s : DrawingSettings) (source : String) : Option Json :=
  match s.envelope .document source with
  | .ok e => Json.parse? e.text
  | .error _ => none

/-- The markup is an error block, and the text of its code is the message. -/
def IsErrorBlock (markup message : String) : Prop :=
  ∃ code : String, markup = "<pre class=\"plainviz-error\"><code>" ++ code ++ "</code></pre>" ∧
    '<' ∉ code.toList ∧ Text.unescape code.toList = message.toList

theorem Settings.isErrorBlock_errorMarkup (message : String) :
    IsErrorBlock (errorMarkup message) message := by
  refine ⟨Text.escape message, rfl, ?_, Text.unescape_escape message⟩
  rw [Text.escape, String.toList_ofList]
  exact Text.not_mem_escapeChars (.inl rfl) message.toList

/-! ### Reading a document -/

theorem ChartForm.read_document_cases (source : String) :
    (∃ c, document.read source = .ok c ∧ Source.parseStandard source = .ok c) ∨
      ∃ ds, document.read source = .error (.document ds) ∧
        Source.parseStandard source = .error ds := by
  unfold ChartForm.read
  cases h : Source.parseStandard source with
  | ok c => exact .inl ⟨c, rfl, rfl⟩
  | error ds => exact .inr ⟨ds, rfl, rfl⟩

namespace DrawingSettings
variable {s : DrawingSettings} {source : String}

theorem picture_of_read {form : ChartForm} {c : Chart} (h : form.read source = .ok c) :
    s.picture form source =
      match s.draw c with
      | .ok svg => .ok svg
      | .error e => .error (.drawing e) := by
  rw [picture, h]
  rfl

theorem picture_of_diagnostics {ds : List Diagnostic}
    (h : ChartForm.document.read source = .error (.document ds)) :
    s.picture .document source = .error (.document ds) := by
  rw [picture, h]
  rfl

theorem hasFiniteChart_of_envelope {form : ChartForm} {e : Envelope}
    (h : s.envelope form source = .ok e) : e.HasFiniteChart := by
  unfold envelope at h
  split at h
  · next c hread =>
    obtain rfl := Except.ok.inj h
    unfold Envelope.ofChart
    cases s.draw c with
    | ok svg => exact ChartForm.isFinite_of_read hread
    | error e => trivial
  · obtain rfl := Except.ok.inj h
    trivial
  · cases h

theorem envelopeJson?_of_read {c : Chart} (h : ChartForm.document.read source = .ok c) :
    s.envelopeJson? source = some (Envelope.ofChart s c).toJson := by
  have henvelope : s.envelope .document source = .ok (.ofChart s c) := by
    rw [envelope, h]
  rw [envelopeJson?, henvelope]
  exact Envelope.parse?_text (hasFiniteChart_of_envelope henvelope)

theorem envelopeJson?_of_diagnostics {ds : List Diagnostic}
    (h : ChartForm.document.read source = .error (.document ds)) :
    s.envelopeJson? source = some (Envelope.invalid ds).toJson := by
  rw [envelopeJson?, envelope, h]
  exact Envelope.parse?_text trivial

end DrawingSettings

/-! ### The three outcomes -/

open Json

theorem Envelope.fields_rendered (c : Chart) (svg : String) :
    (rendered c svg).toJson.field? "ok" = some (.bool true) ∧
      (rendered c svg).toJson.field? "ir" = some c.toJson ∧
      (rendered c svg).toJson.field? "svg" = some (.ofString svg) :=
  ⟨field?_ofFields (by simp) (by simp), field?_ofFields (by simp) (by simp),
    field?_ofFields (by simp) (by simp)⟩

theorem Envelope.fields_invalid (ds : List Diagnostic) :
    (invalid ds).toJson.field? "ok" = some (.bool false) ∧
      (invalid ds).toJson.field? "errors" = some (Diagnostic.listToJson ds) :=
  ⟨field?_ofFields (by simp) (by simp), field?_ofFields (by simp) (by simp)⟩

theorem Envelope.fields_failed (e : RenderError) :
    (failed e).toJson.field? "ok" = some (.bool false) ∧
      (failed e).toJson.field? "error" = some (.ofString e.message) ∧
      (failed e).toJson.field? "code" = some (.ofString "RENDER_ERROR") ∧
      (failed e).toJson.field? "ir" = none ∧ (failed e).toJson.field? "svg" = none :=
  ⟨field?_ofFields (by simp) (by simp), field?_ofFields (by simp) (by simp),
    field?_ofFields (by simp) (by simp), field?_ofFields_eq_none (by simp),
    field?_ofFields_eq_none (by simp)⟩

theorem Envelope.field?_ok (e : Envelope) : e.toJson.field? "ok" = some (.bool e.isOk) := by
  cases e with
  | rendered c svg => exact (fields_rendered c svg).1
  | invalid ds => exact (fields_invalid ds).1
  | failed error => exact (fields_failed error).1

/-- A document has one of three outcomes, and a picture, an envelope and a block all have the same
one. The chart in an envelope is read as the chart of the document if its numbers are read back from
their texts. -/
theorem Settings.frontEnds_agree (s : Settings) (source : String) :
    (∃ c svg v, ChartForm.document.read source = .ok c ∧
      s.drawing.picture .document source = .ok svg ∧
      s.drawing.envelopeJson? source = some v ∧
      v.field? "ok" = some (.bool true) ∧
      v.field? "ir" = some c.toJson ∧
      ((∀ x ∈ c.numbers, ReadsBack x) → (v.field? "ir").bind Chart.ofJson? = some c) ∧
      v.field? "svg" = some (.ofString svg) ∧
      s.blockMarkup source =
        "<div class=\"" ++ Text.escape s.embedding.className ++ "\">" ++ svg ++ "</div>") ∨
    (∃ ds v, s.drawing.picture .document source = .error (.document ds) ∧
      s.drawing.envelopeJson? source = some v ∧
      v.field? "ok" = some (.bool false) ∧
      (v.field? "errors").bind (toList? Diagnostic.ofJson?) = some ds ∧
      ∃ message, IsErrorBlock (s.blockMarkup source) message ∧
        message = "\n".intercalate
          (ds.map fun d => "Line " ++ toString d.line ++ ": " ++ d.message) ∧
        Text.cutLines message.toList =
          ds.map fun d => ("Line " ++ toString d.line ++ ": " ++ d.message).toList) ∨
    (∃ e v, s.drawing.picture .document source = .error (.drawing e) ∧
      s.drawing.envelopeJson? source = some v ∧
      v.field? "ok" = some (.bool false) ∧
      v.field? "error" = some (.ofString e.message) ∧
      v.field? "code" = some (.ofString "RENDER_ERROR") ∧
      v.field? "ir" = none ∧ v.field? "svg" = none ∧
      IsErrorBlock (s.blockMarkup source) ("Render error: " ++ e.message)) := by
  rcases ChartForm.read_document_cases source with ⟨c, hread, -⟩ | ⟨ds, hread, hparse⟩
  · have henvelope := DrawingSettings.envelopeJson?_of_read (s := s.drawing) hread
    cases hdraw : s.drawing.draw c with
    | ok svg =>
      left
      have hpicture : s.drawing.picture .document source = .ok svg := by
        rw [DrawingSettings.picture_of_read hread, hdraw]
      rw [Envelope.ofChart, hdraw] at henvelope
      obtain ⟨hok, hir, hsvg⟩ := Envelope.fields_rendered c svg
      refine ⟨c, svg, _, hread, hpicture, henvelope, hok, hir, fun hback => ?_, hsvg, ?_⟩
      · rw [hir, Option.bind_some, Chart.ofJson?_toJson hback]
      · simp only [blockMarkup, hpicture]
    | error e =>
      right; right
      have hpicture : s.drawing.picture .document source = .error (.drawing e) := by
        rw [DrawingSettings.picture_of_read hread, hdraw]
      rw [Envelope.ofChart, hdraw] at henvelope
      obtain ⟨hok, herror, hcode, hir, hsvg⟩ := Envelope.fields_failed e
      refine ⟨e, _, hpicture, henvelope, hok, herror, hcode, hir, hsvg, ?_⟩
      simp only [blockMarkup, hpicture]
      exact isErrorBlock_errorMarkup _
  · right; left
    have henvelope := DrawingSettings.envelopeJson?_of_diagnostics (s := s.drawing) hread
    have hpicture := DrawingSettings.picture_of_diagnostics (s := s.drawing) hread
    obtain ⟨hok, herrors⟩ := Envelope.fields_invalid ds
    refine ⟨ds, _, hpicture, henvelope, hok, ?_, _, ?_, rfl, Source.cutLines_joined hparse⟩
    · rw [herrors, Option.bind_some, Diagnostic.toList?_listToJson]
    · simp only [blockMarkup, hpicture]
      exact isErrorBlock_errorMarkup _

end ChartText
