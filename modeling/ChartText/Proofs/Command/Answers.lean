import ChartText.Command.Run
import ChartText.Proofs.Command.World
import ChartText.Proofs.Rendering.FrontEnds

/-! # What `render` answers in JSON

A run that is asked for JSON takes in the settings and the text of a chart, makes the envelope of
the text and writes it (`Invocation.answer`). What goes wrong with the settings, the input and the
output ends in exit code 2, and a text that cannot be read or drawn has an envelope that says so,
but for one: what should be the JSON of a chart and is not leaves the command before there is an
envelope (`Invocation.run_render_json`). -/

namespace ChartText

/-! ### Envelopes -/

namespace DrawingSettings
variable {s : DrawingSettings} {form : ChartForm} {text : String}

/-- The only text without an envelope is one that should be the JSON of a chart and is not. -/
theorem envelope_eq_error {f : Failure} (h : s.envelope form text = .error f) :
    form = .json ∧ Chart.ofJsonText? text = none ∧
      f = .undecodableChart (Chart.jsonFault text) := by
  unfold envelope ChartForm.read at h
  cases form with
  | document =>
    dsimp only at h
    cases hparse : Source.parseStandard text with
    | ok c =>
      rw [hparse] at h
      cases h
    | error ds =>
      rw [hparse] at h
      cases h
  | json =>
    dsimp only at h
    cases hchart : Chart.ofJsonText? text with
    | none =>
      rw [hchart] at h
      cases h
      exact ⟨rfl, rfl, rfl⟩
    | some c =>
      rw [hchart] at h
      cases h

theorem envelope_undecodable (h : Chart.ofJsonText? text = none) :
    s.envelope .json text = .error (.undecodableChart (Chart.jsonFault text)) := by
  rw [envelope, ChartForm.read, h]

end DrawingSettings

/-! ### Runs -/

namespace Invocation
variable {inv : Invocation} {r : RenderRequest} {s : DrawingSettings} {text : String}
  {w w' : World}

theorem run_of_error (inv : Invocation) {f : Failure}
    (h : (inv.runCommand World.host).run w = (.error f, w')) :
    ∃ errors, inv.run World.host w = (f.exitCode, { w' with errors }) :=
  ⟨_, run_of_fail inv h⟩

/-- What a run takes in before there is an envelope: the settings of the drawing, with the options
of the command before those of the file, and the text of the chart. Nothing but the log changes. -/
def TakesIn (inv : Invocation) (r : RenderRequest) (w : World) (s : DrawingSettings)
    (text : String) : Prop :=
  ∃ loaded w₁ w₂, (inv.loadSettings World.host r.settings).run w = (.ok loaded, w₁) ∧
    World.Logs w w₁ ∧ r.override loaded.settings.drawing = s ∧
    (World.host.readInput r.input).run w₁ = (.ok text, w₂) ∧ World.Logs w₁ w₂

/-- Makes the envelope and writes it. -/
def answer (s : DrawingSettings) (r : RenderRequest) (text : String) :
    ExceptT Failure (StateM World) Nat := do
  let envelope ← s.envelope r.form text
  World.host.writeOutput r.output (envelope.text ++ "\n")
  return if envelope.isOk then 0 else 1

theorem runRender_of_takesIn (h : inv.TakesIn r w s text) :
    ∃ w₁, World.Logs w w₁ ∧
      (runRender World.host inv { r with format := .json }).run w = (answer s r text).run w₁ := by
  obtain ⟨loaded, w₁, w₂, hload, hlogs, rfl, hread, hlogs'⟩ := h
  let events := (r.override loaded.settings.drawing).pictureEvents r.form text
  refine ⟨(World.host.logAll events w₂).2,
    (hlogs.trans hlogs').trans (World.logs_logAll events w₂), ?_⟩
  unfold runRender
  rw [run_bind_ok hload, run_bind_ok hread]
  rfl

/-- Before there is an envelope, a run fails for its surroundings only. -/
theorem takesIn_or_fails (inv : Invocation) (r : RenderRequest) (w : World) :
    (∃ s text, inv.TakesIn r w s text) ∨
      ∃ f w', (runRender World.host inv { r with format := .json }).run w = (.error f, w') ∧
        f.isOfDocument = false := by
  rcases hload : (inv.loadSettings World.host r.settings).run w with ⟨f | loaded, w₁⟩
  · have hloads := Invocation.run_loadSettings_iff.1 hload
    exact .inr ⟨f, w₁, run_bind_error hload, hloads.isOfDocument_eq_false⟩
  · have hloads := World.logs_of_loads (Invocation.run_loadSettings_iff.1 hload)
    rcases hread : (World.host.readInput r.input).run w₁ with ⟨f | text, w₂⟩
    · refine .inr ⟨f, w₂, ?_, (Host.run_readInput_iff.1 hread).isOfDocument_eq_false⟩
      unfold runRender
      rw [run_bind_ok hload, run_bind_error hread]
    · have hreads := World.logs_of_reads (Host.run_readInput_iff.1 hread)
      exact .inl ⟨_, text, loaded, w₁, w₂, hload, hloads, rfl, hread, hreads⟩

theorem run_answer_of_error {f : Failure} (h : s.envelope r.form text = .error f) (w : World) :
    (answer s r text).run w = (.error f, w) := by
  unfold answer
  rw [h]
  rfl

theorem run_answer_of_ok {e : Envelope} (h : s.envelope r.form text = .ok e) (w : World) :
    (∃ w', (answer s r text).run w = (.ok (if e.isOk then 0 else 1), w') ∧
      World.Wrote r.output (e.text ++ "\n") w w') ∨
    ∃ f w', (answer s r text).run w = (.error f, w') ∧ f.isOfDocument = false := by
  have hanswer : (answer s r text).run w = (do
      World.host.writeOutput r.output (e.text ++ "\n")
      return if e.isOk then 0 else 1 : ExceptT Failure (StateM World) Nat).run w := by
    unfold answer
    rw [h]
    rfl
  rw [hanswer]
  rcases World.run_writeOutput r.output (e.text ++ "\n") w with
    ⟨w', hwrite, hwrote⟩ | ⟨f, w', hwrite, hf⟩
  · exact .inl ⟨w', run_bind_ok hwrite, hwrote⟩
  · exact .inr ⟨f, w', run_bind_error hwrite, hf⟩

/-- A run that is asked for JSON ends with exit code 2, or it writes the envelope of the text that
it has read: one envelope and a line feed, whose field `ok` is true if and only if the exit code is
0. The exception is a text that should be the JSON of a chart and is not: the run ends with exit
code 1, and nothing is written. -/
theorem run_render_json (inv : Invocation) (r : RenderRequest) (w : World) :
    ∃ code w', run World.host
        { inv with command := .render { r with format := .json } } w = (code, w') ∧
      (code = 2 ∨ ∃ s text, inv.TakesIn r w s text ∧
        ((∃ e, s.envelope r.form text = .ok e ∧ World.Wrote r.output (e.text ++ "\n") w w' ∧
          Json.parse? e.text = some e.toJson ∧
          e.toJson.field? "ok" = some (.bool (code == 0)) ∧ code ≤ 1) ∨
        (r.form = .json ∧ Chart.ofJsonText? text = none ∧ code = 1 ∧
          ∃ errors, w' = { w with errors }))) := by
  have hfails {f : Failure} {w' : World}
      (hrun : (runRender World.host inv { r with format := .json }).run w = (.error f, w')) :
      ∃ errors, run World.host { inv with command := .render { r with format := .json } } w =
        (f.exitCode, { w' with errors }) :=
    run_of_error { inv with command := .render { r with format := .json } } hrun
  rcases takesIn_or_fails inv r w with ⟨s, text, htakes⟩ | ⟨f, w₁, hrun, hf⟩
  · obtain ⟨w₁, hlogs, hanswer⟩ := runRender_of_takesIn htakes
    cases henvelope : s.envelope r.form text with
    | error f =>
      obtain ⟨hform, hchart, rfl⟩ := DrawingSettings.envelope_eq_error henvelope
      obtain ⟨errors, hrun⟩ := hfails (hanswer.trans (run_answer_of_error henvelope w₁))
      obtain ⟨events, rfl⟩ := hlogs
      exact ⟨_, _, hrun, .inr ⟨s, text, htakes, .inr ⟨hform, hchart, rfl, errors, rfl⟩⟩⟩
    | ok e =>
      rcases run_answer_of_ok henvelope w₁ with ⟨w', hrun, hwrote⟩ | ⟨f, w', hrun, hf⟩
      · have hparse := Envelope.parse?_text (DrawingSettings.hasFiniteChart_of_envelope henvelope)
        refine ⟨_, w', run_of_ok { inv with command := .render _ } (hanswer.trans hrun),
          .inr ⟨s, text, htakes, .inl ⟨e, henvelope, hwrote.of_logs hlogs, hparse, ?_, ?_⟩⟩⟩
        · rw [Envelope.field?_ok]
          cases e.isOk <;> rfl
        · split <;> decide
      · obtain ⟨errors, hrun⟩ := hfails (hanswer.trans hrun)
        exact ⟨_, _, hrun, .inl (Failure.exitCode_of_surroundings hf)⟩
  · obtain ⟨errors, hrun⟩ := hfails hrun
    exact ⟨_, _, hrun, .inl (Failure.exitCode_of_surroundings hf)⟩

/-- The text of a document is no JSON of a chart, and the run that is asked to read it as such gives
no answer. -/
theorem run_render_json_unanswered :
    ∃ w', run World.host
        { ignoresSettings := true, command := .render { format := .json, form := .json } }
        { nodes := [], workingPlace := [], userDirectory := none,
          standardInput := "A: 1".toUTF8 } = (1, w') ∧
      w'.nodes = [] ∧ w'.output = "" ∧ ∀ e : Envelope, w'.output ≠ e.text ++ "\n" := by
  let w : World := { nodes := [], workingPlace := [], userDirectory := none,
                     standardInput := "A: 1".toUTF8 }
  let r : RenderRequest := { format := .json, form := .json }
  let inv : Invocation := { ignoresSettings := true, command := .render r }
  have htakes : inv.TakesIn r w {} "A: 1" :=
    ⟨⟨{}, none⟩, w, w, rfl, .refl w, rfl,
      World.run_readInput_standard (World.textOfBytes_toUTF8 "A: 1"), .refl w⟩
  have hchart : Chart.ofJsonText? "A: 1" = none := by decide +kernel
  obtain ⟨w₁, ⟨events, rfl⟩, hanswer⟩ := runRender_of_takesIn htakes
  obtain ⟨errors, hrun⟩ := run_of_error inv <| hanswer.trans <|
    run_answer_of_error (DrawingSettings.envelope_undecodable hchart) _
  refine ⟨_, hrun, rfl, rfl, fun e (h : "" = e.text ++ "\n") => ?_⟩
  have hlength := congrArg String.length h
  rw [String.length_append, show "\n".length = 1 from rfl] at hlength
  exact absurd hlength.symm (Nat.succ_ne_zero _)

end Invocation
end ChartText
