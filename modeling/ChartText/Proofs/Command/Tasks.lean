import ChartText.Proofs.Command.Steps
import ChartText.Proofs.Rendering.FrontEnds

/-! # Tasks

A `Task` is a command that takes a document in and gives a text out. It loads the settings, reads
the input, makes its answer of both, and writes the answer. `Fails` says which of these steps fails,
and why, in terms of the steps alone; the exit code of a run and what it reports are those of the
first step that fails (`Invocation.run_task`). -/

namespace ChartText

/-- A command that takes a document in and gives a text out. -/
inductive Task
  | parse (input output : Option String)
  | render (request : RenderRequest)
  | embed (request : EmbedRequest)

namespace Task

def command : Task → Command
  | parse input output => .parse input output
  | render r => .render r
  | embed r => .embed r

/-- The task as a whole run. -/
def invocation (t : Task) (inv : Invocation) : Invocation :=
  { inv with command := t.command }

def input : Task → Option String
  | parse input _ => input
  | render r => r.input
  | embed r => r.input

def output : Task → Option String
  | parse _ output => output
  | render r => r.output
  | embed r => r.output

/-- The settings file that is named, if any, for the tasks that load settings. -/
def settingsPath? : Task → Option (Option String)
  | parse .. => none
  | render r => some r.settings
  | embed r => some r.settings

/-! ### What a task makes of a document -/

/-- What is wrong with a document that cannot be read or drawn. A chart in Markdown that cannot has
an error block instead, so nothing is wrong with the Markdown. -/
def fault? (t : Task) (s : Settings) (text : String) : Option Failure :=
  match t with
  | parse .. =>
    match ChartForm.document.read text with
    | .ok _ => none
    | .error f => some f
  | render r =>
    match r.form.read text with
    | .ok c =>
      match (r.override s.drawing).draw c with
      | .ok _ => none
      | .error e => some (.drawing e)
    | .error f => some f
  | embed _ => none

/-- The text that is written for a document, if any is. -/
def answer? (t : Task) (s : Settings) (text : String) : Option String :=
  match t with
  | parse .. => (documentToJson text).toOption
  | render r =>
    let s := r.override s.drawing
    match r.format with
    | .svg => (s.picture r.form text).toOption.map (· ++ "\n")
    | .json => (s.envelope r.form text).toOption.map (·.text ++ "\n")
  | embed r => some ({ s with embedding := r.override s.embedding }.embed text)

/-- What is logged of a document. -/
def events (t : Task) (s : Settings) (text : String) : List LogEvent :=
  match t with
  | parse .. => documentEvents text
  | render r => (r.override s.drawing).pictureEvents r.form text
  | embed r =>
    let s : Settings := { s with embedding := r.override s.embedding }
    s.embeddingEvents (s.embedding.chartBlocks text)

end Task

/-- The envelope that tells of the fault of a document. -/
def Envelope.ofFailure? : Failure → Option Envelope
  | .document diagnostics => some (.invalid diagnostics)
  | .drawing error => some (.failed error)
  | _ => none

/-- The fault of a document is told of in the text that is written. -/
def Task.tellsInside (t : Task) (f : Failure) : Bool :=
  match t with
  | render r => r.format == .json && (Envelope.ofFailure? f).isSome
  | parse .. | embed _ => false

theorem ChartForm.isOfDocument_of_read {form : ChartForm} {text : String} {f : Failure}
    (h : form.read text = .error f) : f.isOfDocument = true := by
  cases form <;>
  · simp only [read] at h
    split at h <;> cases h
    rfl

/-- A picture and an envelope tell of the same: of the picture, of a fault, or of a text that is no
chart, which has no envelope. -/
theorem DrawingSettings.picture_envelope_cases (s : DrawingSettings) (form : ChartForm)
    (text : String) :
    (∃ c svg, s.picture form text = .ok svg ∧ s.envelope form text = .ok (.rendered c svg)) ∨
      (∃ f e, s.picture form text = .error f ∧ s.envelope form text = .ok e ∧
        Envelope.ofFailure? f = some e) ∨
      ∃ reason, s.picture form text = .error (.undecodableChart reason) ∧
        s.envelope form text = .error (.undecodableChart reason) := by
  have hchart {c : Chart} (hread : form.read text = .ok c) :
      (∃ c svg, s.picture form text = .ok svg ∧ s.envelope form text = .ok (.rendered c svg)) ∨
        ∃ f e, s.picture form text = .error f ∧ s.envelope form text = .ok e ∧
          Envelope.ofFailure? f = some e := by
    have henvelope : s.envelope form text = .ok (.ofChart s c) := by rw [envelope, hread]
    cases hdraw : s.draw c with
    | ok svg =>
      rw [Envelope.ofChart, hdraw] at henvelope
      exact .inl ⟨c, svg, by rw [picture_of_read hread, hdraw], henvelope⟩
    | error e =>
      rw [Envelope.ofChart, hdraw] at henvelope
      exact .inr ⟨.drawing e, .failed e, by rw [picture_of_read hread, hdraw], henvelope, rfl⟩
  cases form with
  | document =>
    rcases ChartForm.read_document_cases text with ⟨c, hread, -⟩ | ⟨ds, hread, -⟩
    · exact (hchart hread).imp_right .inl
    · refine .inr (.inl ⟨.document ds, .invalid ds, picture_of_diagnostics hread, ?_, rfl⟩)
      rw [envelope, hread]
  | json =>
    cases hjson : Chart.ofJsonText? text with
    | some c => exact (hchart (by rw [ChartForm.read, hjson])).imp_right .inl
    | none =>
      refine .inr (.inr ⟨Chart.jsonFault text, ?_, ?_⟩)
      · rw [picture, ChartForm.read, hjson]
        rfl
      · rw [envelope, ChartForm.read, hjson]

namespace Task
variable {s : Settings} {text : String}

theorem fault?_parse (input output : Option String) (s : Settings) (text : String) :
    (parse input output).fault? s text =
      match documentToJson text with
      | .ok _ => none
      | .error f => some f := by
  rw [fault?, documentToJson]
  cases ChartForm.document.read text <;> rfl

theorem fault?_render (r : RenderRequest) (s : Settings) (text : String) :
    (render r).fault? s text =
      match (r.override s.drawing).picture r.form text with
      | .ok _ => none
      | .error f => some f := by
  cases hread : r.form.read text with
  | ok c =>
    rw [fault?, hread, DrawingSettings.picture_of_read hread]
    dsimp only
    cases (r.override s.drawing).draw c <;> rfl
  | error f => rw [fault?, DrawingSettings.picture, hread]; rfl

/-- A document has a fault and no answer, or an answer that tells of the fault it has. -/
theorem fault_or_answer (t : Task) (s : Settings) (text : String) :
    (∃ f, t.fault? s text = some f ∧ t.tellsInside f = false ∧ t.answer? s text = none) ∨
      ∃ answer, t.answer? s text = some answer ∧ ∀ f, t.fault? s text = some f →
        t.tellsInside f = true ∧
          ∃ e, Envelope.ofFailure? f = some e ∧ answer = e.text ++ "\n" := by
  cases t with
  | parse input output =>
    rw [fault?_parse]
    cases hjson : documentToJson text with
    | ok json => exact .inr ⟨json, by rw [answer?, hjson]; rfl, by simp⟩
    | error f => exact .inl ⟨f, rfl, rfl, by rw [answer?, hjson]; rfl⟩
  | render r =>
    rw [fault?_render]
    rcases (r.override s.drawing).picture_envelope_cases r.form text with
      ⟨c, svg, hpicture, henvelope⟩ | ⟨f, e, hpicture, henvelope, hinside⟩ |
        ⟨reason, hpicture, henvelope⟩
    · right
      cases hformat : r.format with
      | svg =>
        exact ⟨svg ++ "\n", by simp [answer?, hformat, hpicture, Except.toOption],
          by simp [hpicture]⟩
      | json =>
        exact ⟨(Envelope.rendered c svg).text ++ "\n",
          by simp [answer?, hformat, henvelope, Except.toOption], by simp [hpicture]⟩
    · rw [hpicture]
      cases hformat : r.format with
      | svg =>
        exact .inl ⟨f, rfl, by simp [tellsInside, hformat],
          by simp [answer?, hformat, hpicture, Except.toOption]⟩
      | json =>
        refine .inr ⟨e.text ++ "\n", by simp [answer?, hformat, henvelope, Except.toOption], ?_⟩
        rintro _ ⟨⟩
        exact ⟨by simp [tellsInside, hformat, hinside], e, hinside, rfl⟩
    · rw [hpicture]
      refine .inl ⟨_, rfl, by simp [tellsInside, Envelope.ofFailure?], ?_⟩
      cases hformat : r.format with
      | svg => simp [answer?, hformat, hpicture, Except.toOption]
      | json => simp [answer?, hformat, henvelope, Except.toOption]
  | embed r => exact .inr ⟨_, rfl, by rintro f ⟨⟩⟩

theorem render_of_tellsInside {t : Task} {f : Failure} (h : t.tellsInside f = true) :
    ∃ r, t = .render r ∧ r.format = .json := by
  cases t with
  | render r => exact ⟨r, rfl, eq_of_beq (Bool.and_eq_true_iff.1 h).1⟩
  | parse => cases h
  | embed => cases h

theorem tells_of_answer {t : Task} {f : Failure} {answer : String}
    (hanswer : t.answer? s text = some answer) (hfault : t.fault? s text = some f) :
    t.tellsInside f = true ∧ ∃ e, Envelope.ofFailure? f = some e ∧ answer = e.text ++ "\n" := by
  rcases t.fault_or_answer s text with ⟨g, -, -, hnone⟩ | ⟨answer', hanswer', htells⟩
  · cases hanswer.symm.trans hnone
  · cases hanswer.symm.trans hanswer'
    exact htells f hfault

theorem isOfDocument_of_fault {t : Task} {f : Failure} (h : t.fault? s text = some f) :
    f.isOfDocument = true := by
  unfold fault? at h
  cases t with
  | parse =>
    dsimp only at h
    split at h
    · cases h
    · next hread =>
      cases h
      exact ChartForm.isOfDocument_of_read hread
  | render r =>
    dsimp only at h
    split at h
    · split at h
      · cases h
      · cases h
        rfl
    · next hread =>
      cases h
      exact ChartForm.isOfDocument_of_read hread
  | embed r => cases h

end Task

/-! ### The steps of a task -/

inductive Stage
  | settings
  | input
  | document
  | output
deriving DecidableEq

section
variable {σ : Type} (host : Host (StateM σ)) (inv : Invocation) (t : Task) (w : σ)

/-- A task has the settings that it has loaded, or the default ones if it loads none. -/
inductive HasSettings : Settings → σ → Prop
  | none (path_eq : t.settingsPath? = none) : HasSettings {} w
  | disabled {path : Option String} (path_eq : t.settingsPath? = some path)
      (ignores : inv.ignoresSettings = true) : HasSettings {} (host.log .settingsDisabled w).2
  | loaded {path : Option String} {loaded : LoadedSettings} {w' : σ}
      (path_eq : t.settingsPath? = some path) (attempts : inv.ignoresSettings = false)
      (loads : (inv.loadSettings host path).run w = (.ok loaded, w')) :
      HasSettings loaded.settings w'

/-- A task has its settings and its input, and has logged what it makes of them. -/
def TakesIn (s : Settings) (text : String) (w' : σ) : Prop :=
  ∃ w₁ w₂, HasSettings host inv t w s w₁ ∧ (host.readInput t.input).run w₁ = (.ok text, w₂) ∧
    (host.logAll (t.events s text) w₂).2 = w'

/-- The step of a stage is attempted, once those before it have been taken, and fails. -/
inductive Fails : Stage → Failure → σ → Prop
  | settings {path : Option String} {f : Failure} {w' : σ}
      (path_eq : t.settingsPath? = some path) (attempts : inv.ignoresSettings = false)
      (fails : (inv.loadSettings host path).run w = (.error f, w')) : Fails .settings f w'
  | input {s : Settings} {w₁ : σ} {f : Failure} {w' : σ}
      (settings : HasSettings host inv t w s w₁)
      (fails : (host.readInput t.input).run w₁ = (.error f, w')) : Fails .input f w'
  | document {s : Settings} {text : String} {f : Failure} {w' : σ}
      (takesIn : TakesIn host inv t w s text w') (fault : t.fault? s text = some f) :
      Fails .document f w'
  | output {s : Settings} {text answer : String} {w₁ : σ} {f : Failure} {w' : σ}
      (takesIn : TakesIn host inv t w s text w₁) (answers : t.answer? s text = some answer)
      (fails : (host.writeOutput t.output answer).run w₁ = (.error f, w')) : Fails .output f w'

end

/-! ### The parts of a run -/

namespace Task
variable {σ : Type} {host : Host (StateM σ)} {inv : Invocation} {t : Task} {w w' : σ}
  {s : Settings} {text : String}

/-- What a task does with its settings and its input. -/
def proceed (host : Host (StateM σ)) (inv : Invocation) (t : Task) (s : Settings) (text : String) :
    ExceptT Failure (StateM σ) Nat :=
  match t with
  | parse _ output => do
    let json ← documentToJson text
    host.writeOutput output json
    return 0
  | render r => do
    let drawing := r.override s.drawing
    match r.format with
    | .svg =>
      let svg ← drawing.picture r.form text
      host.writeOutput r.output (svg ++ "\n")
      return 0
    | .json =>
      let envelope ← drawing.envelope r.form text
      host.writeOutput r.output (envelope.text ++ "\n")
      return if envelope.isOk then 0 else 1
  | embed r => do
    let settings : Settings := { s with embedding := r.override s.embedding }
    let blocks := settings.embedding.chartBlocks text
    host.writeOutput r.output (settings.replaceBlocks text blocks)
    if blocks.isEmpty && !inv.quiet then
      (inv.tell host Invocation.noBlocksReport : StateM σ Unit)
    return 0

/-- What is told once the answer has been written: Markdown may have no charts. -/
def remark (host : Host (StateM σ)) (inv : Invocation) (t : Task) (s : Settings) (text : String) :
    StateM σ Unit :=
  match t with
  | embed r =>
    if ((r.override s.embedding).chartBlocks text).isEmpty && !inv.quiet then
      inv.tell host Invocation.noBlocksReport
    else return ()
  | parse .. | render _ => return ()

theorem loads_of_hasSettings {path : Option String} {w₁ : σ} (h : HasSettings host inv t w s w₁)
    (hpath : t.settingsPath? = some path) :
    ∃ loaded, (inv.loadSettings host path).run w = (.ok loaded, w₁) ∧ loaded.settings = s := by
  cases h with
  | none path_eq => cases path_eq.symm.trans hpath
  | disabled _ ignores =>
    refine ⟨⟨{}, none⟩, ?_, rfl⟩
    unfold Invocation.loadSettings
    rw [if_pos ignores]
    rfl
  | loaded path_eq attempts loads =>
    cases path_eq.symm.trans hpath
    exact ⟨_, loads, rfl⟩

theorem run_of_hasSettings {w₁ : σ} (h : HasSettings host inv t w s w₁) :
    ((t.invocation inv).runCommand host).run w = (do
      let text ← host.readInput t.input
      host.logAll (t.events s text)
      t.proceed host inv s text).run w₁ := by
  cases t with
  | parse input output =>
    cases h with
    | none => rfl
    | disabled path_eq => cases path_eq
    | loaded path_eq => cases path_eq
  | render r =>
    obtain ⟨loaded, hload, rfl⟩ := loads_of_hasSettings h rfl
    exact (run_bind_ok hload).trans rfl
  | embed r =>
    obtain ⟨loaded, hload, rfl⟩ := loads_of_hasSettings h rfl
    exact (run_bind_ok hload).trans rfl

theorem run_of_settings_fail {path : Option String} {f : Failure}
    (hpath : t.settingsPath? = some path)
    (h : (inv.loadSettings host path).run w = (.error f, w')) :
    ((t.invocation inv).runCommand host).run w = (.error f, w') := by
  cases t with
  | parse => cases hpath
  | render r =>
    cases hpath
    exact run_bind_error h
  | embed r =>
    cases hpath
    exact run_bind_error h

theorem run_of_takesIn (h : TakesIn host inv t w s text w') :
    ((t.invocation inv).runCommand host).run w = (t.proceed host inv s text).run w' := by
  obtain ⟨w₁, w₂, hsettings, hread, rfl⟩ := h
  rw [run_of_hasSettings hsettings, run_bind_ok hread]
  rfl

theorem run_proceed_of_fault {f : Failure} (h : t.fault? s text = some f)
    (hf : t.tellsInside f = false) : (t.proceed host inv s text).run w = (.error f, w) := by
  cases t with
  | parse input output =>
    cases hjson : documentToJson text with
    | ok json => simp [fault?_parse, hjson] at h
    | error g =>
      obtain rfl : g = f := by simpa [fault?_parse, hjson] using h
      unfold proceed
      rw [hjson]
      rfl
  | render r =>
    unfold proceed
    dsimp only
    rcases (r.override s.drawing).picture_envelope_cases r.form text with
      ⟨c, svg, hpicture, -⟩ | ⟨g, e, hpicture, -, hinside⟩ | ⟨reason, hpicture, henvelope⟩
    · simp [fault?_render, hpicture] at h
    · -- only a picture on its own does not tell of the fault
      obtain rfl : g = f := by simpa [fault?_render, hpicture] using h
      cases hformat : r.format with
      | svg =>
        dsimp only
        rw [hpicture]
        rfl
      | json => simp [tellsInside, hformat, hinside] at hf
    · obtain rfl : .undecodableChart reason = f := by simpa [fault?_render, hpicture] using h
      cases r.format with
      | svg =>
        dsimp only
        rw [hpicture]
        rfl
      | json =>
        dsimp only
        rw [henvelope]
        rfl
  | embed r => cases h

theorem run_proceed_of_answer {answer : String} (h : t.answer? s text = some answer) :
    (t.proceed host inv s text).run w = (do
      host.writeOutput t.output answer
      (t.remark host inv s text : StateM σ Unit)
      return if (t.fault? s text).isSome then 1 else 0 : ExceptT Failure (StateM σ) Nat).run w := by
  cases t with
  | parse input output =>
    cases hjson : documentToJson text with
    | ok json =>
      obtain rfl : json = answer := by simpa [answer?, hjson, Except.toOption] using h
      have hfault : (parse input output).fault? s text = none := by simp [fault?_parse, hjson]
      unfold proceed
      rw [hjson, hfault]
      rfl
    | error g => simp [answer?, hjson, Except.toOption] at h
  | render r =>
    unfold proceed
    dsimp only
    rcases (r.override s.drawing).picture_envelope_cases r.form text with
      ⟨c, svg, hpicture, henvelope⟩ | ⟨f, e, hpicture, henvelope, hinside⟩ |
        ⟨reason, hpicture, henvelope⟩
    · have hfault : (render r).fault? s text = none := by simp [fault?_render, hpicture]
      cases hformat : r.format with
      | svg =>
        obtain rfl : svg ++ "\n" = answer := by
          simpa [answer?, hformat, hpicture, Except.toOption] using h
        dsimp only
        rw [hpicture, hfault]
        rfl
      | json =>
        obtain rfl : (Envelope.rendered c svg).text ++ "\n" = answer := by
          simpa [answer?, hformat, henvelope, Except.toOption] using h
        dsimp only
        rw [henvelope, hfault]
        rfl
    · have hfault : (render r).fault? s text = some f := by simp [fault?_render, hpicture]
      cases hformat : r.format with
      | svg => simp [answer?, hformat, hpicture, Except.toOption] at h
      | json =>
        obtain rfl : e.text ++ "\n" = answer := by
          simpa [answer?, hformat, henvelope, Except.toOption] using h
        have hisOk : e.isOk = false := by
          cases f <;> cases hinside <;> rfl
        dsimp only
        rw [henvelope, hfault]
        change (do
          host.writeOutput r.output (e.text ++ "\n")
          return if e.isOk then 0 else 1 : ExceptT Failure (StateM σ) Nat).run w = _
        rw [hisOk]
        rfl
    · cases hformat : r.format with
      | svg => simp [answer?, hformat, hpicture, Except.toOption] at h
      | json => simp [answer?, hformat, henvelope, Except.toOption] at h
  | embed r =>
    obtain rfl := Option.some.inj h
    unfold proceed remark
    dsimp only
    split
    · rfl
    · rfl

end Task

end ChartText
