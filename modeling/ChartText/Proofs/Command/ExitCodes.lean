import ChartText.Proofs.Command.Tasks
import ChartText.Proofs.Command.World

/-! # Exit codes

The first step of a task that fails decides its exit code and is what is told of: 2 if it is loading
the settings, reading the input or writing the output, and 1 if it is reading or drawing the
document (`Invocation.run_task`). Only the faults that an envelope tells of are not told of once
more, and they do not keep the output from being written. When the host makes a step fail is what
`Task.failsOutside_iff` says. -/

namespace ChartText

variable {σ : Type} {host : Host (StateM σ)} {inv : Invocation} {t : Task} {w w' w₁ w₂ : σ}
  {s : Settings} {text : String} {stage : Stage} {f : Failure}

namespace Task

/-! ### Every step is taken or fails -/

theorem hasSettings_or_fails (host : Host (StateM σ)) (inv : Invocation) (t : Task) (w : σ) :
    (∃ s w₁, HasSettings host inv t w s w₁) ∨ ∃ f w₁, Fails host inv t w .settings f w₁ := by
  cases hpath : t.settingsPath? with
  | none => exact .inl ⟨{}, w, .none hpath⟩
  | some path =>
    cases hignores : inv.ignoresSettings with
    | true => exact .inl ⟨{}, _, .disabled hpath hignores⟩
    | false =>
      rcases hload : (inv.loadSettings host path).run w with ⟨f | loaded, w₁⟩
      · exact .inr ⟨f, w₁, .settings hpath hignores hload⟩
      · exact .inl ⟨_, w₁, .loaded hpath hignores hload⟩

theorem takesIn_or_fails (host : Host (StateM σ)) (inv : Invocation) (t : Task) (w : σ) :
    (∃ s text w₁, TakesIn host inv t w s text w₁) ∨
      ∃ stage f w₁, stage ≠ .document ∧ stage ≠ .output ∧ Fails host inv t w stage f w₁ := by
  rcases hasSettings_or_fails host inv t w with ⟨s, w₁, hsettings⟩ | ⟨f, w₁, hfails⟩
  · rcases hread : (host.readInput t.input).run w₁ with ⟨f | text, w₂⟩
    · exact .inr ⟨.input, f, w₂, by decide, by decide, .input hsettings hread⟩
    · exact .inl ⟨s, text, _, w₁, w₂, hsettings, hread, rfl⟩
  · exact .inr ⟨.settings, f, w₁, by decide, by decide, hfails⟩

theorem hasSettings_unique {s' : Settings} (h : HasSettings host inv t w s w₁)
    (h' : HasSettings host inv t w s' w₂) : s = s' ∧ w₁ = w₂ := by
  cases h with
  | none path_eq =>
    cases h' with
    | none => exact ⟨rfl, rfl⟩
    | disabled path_eq' | loaded path_eq' => cases path_eq.symm.trans path_eq'
  | disabled path_eq ignores =>
    cases h' with
    | none path_eq' => cases path_eq.symm.trans path_eq'
    | disabled => exact ⟨rfl, rfl⟩
    | loaded _ attempts => cases attempts.symm.trans ignores
  | loaded path_eq attempts loads =>
    cases h' with
    | none path_eq' => cases path_eq.symm.trans path_eq'
    | disabled _ ignores => cases attempts.symm.trans ignores
    | loaded path_eq' _ loads' =>
      cases path_eq.symm.trans path_eq'
      cases loads.symm.trans loads'
      exact ⟨rfl, rfl⟩

theorem takesIn_unique {s' : Settings} {text' : String} (h : TakesIn host inv t w s text w₁)
    (h' : TakesIn host inv t w s' text' w₂) : s = s' ∧ text = text' := by
  obtain ⟨w₃, w₄, hsettings, hread, -⟩ := h
  obtain ⟨w₅, w₆, hsettings', hread', -⟩ := h'
  obtain ⟨rfl, rfl⟩ := hasSettings_unique hsettings hsettings'
  cases hread.symm.trans hread'
  exact ⟨rfl, rfl⟩

theorem fails_document_iff :
    Fails host inv t w .document f w₁ ↔
      ∃ s text, TakesIn host inv t w s text w₁ ∧ t.fault? s text = some f := by
  constructor
  · rintro ⟨⟩
    exact ⟨_, _, ‹_›, ‹_›⟩
  · rintro ⟨s, text, htakes, hfault⟩
    exact .document htakes hfault

/-- The settings, the input and the output are the surroundings of the document. -/
theorem isOfDocument_of_fails (h : Fails host inv t w stage f w₁) :
    f.isOfDocument = (stage == .document) := by
  cases h with
  | settings _ _ fails => exact (Invocation.run_loadSettings_iff.1 fails).isOfDocument_eq_false
  | input _ fails => exact (Host.run_readInput_iff.1 fails).isOfDocument_eq_false
  | document _ fault => exact isOfDocument_of_fault fault
  | output _ _ fails => exact (Host.run_writeOutput_iff.1 fails).isOfDocument_eq_false

/-! ### What a run comes to -/

/-- The task ends with the failure of a step, unless it goes on to tell of it. -/
theorem run_of_fails (h : Fails host inv t w stage f w₁)
    (hf : stage = .document → t.tellsInside f = false) :
    (t.invocation inv).run host w = (f.exitCode, (inv.tell host (.ofFailure f) w₁).2) := by
  refine Invocation.run_of_fail (t.invocation inv) ?_
  cases h with
  | settings hpath _ fails => exact run_of_settings_fail hpath fails
  | input settings fails => rw [run_of_hasSettings settings, run_bind_error fails]
  | document takesIn fault => rw [run_of_takesIn takesIn, run_proceed_of_fault fault (hf rfl)]
  | output takesIn answers fails =>
    rw [run_of_takesIn takesIn, run_proceed_of_answer answers, run_bind_error fails]

theorem run_of_writes {answer : String} (htakes : TakesIn host inv t w s text w₁)
    (hanswer : t.answer? s text = some answer)
    (hwrite : (host.writeOutput t.output answer).run w₁ = (.ok (), w₂)) :
    (t.invocation inv).run host w =
      (if (t.fault? s text).isSome then 1 else 0, (t.remark host inv s text w₂).2) := by
  refine Invocation.run_of_ok (t.invocation inv) ?_
  rw [run_of_takesIn htakes, run_proceed_of_answer hanswer, run_bind_ok hwrite]
  rfl

theorem remark_of_tellsInside (h : t.tellsInside f = true) :
    t.remark host inv s text = return () := by
  obtain ⟨r, rfl, -⟩ := render_of_tellsInside h
  rfl

end Task

/-- Loading the settings, reading the input or writing the output is attempted and fails. -/
def Task.FailsOutside (host : Host (StateM σ)) (inv : Invocation) (t : Task) (w : σ) : Prop :=
  ∃ stage f w', stage ≠ .document ∧ Fails host inv t w stage f w'

/-- The document is there and cannot be read or drawn. -/
def Task.FailsInside (host : Host (StateM σ)) (inv : Invocation) (t : Task) (w : σ) : Prop :=
  ∃ f w', Fails host inv t w .document f w'

namespace Task

/-! ### Failures by the rules of the steps -/

theorem hasSettings_iff :
    HasSettings host inv t w s w' ↔
      t.settingsPath? = none ∧ s = {} ∧ w' = w ∨
        ∃ path source, t.settingsPath? = some path ∧ inv.Loads host w path (.ok ⟨s, source⟩) w' := by
  constructor
  · intro h
    cases hpath : t.settingsPath? with
    | none =>
      cases h with
      | none => exact .inl ⟨rfl, rfl, rfl⟩
      | disabled path_eq | loaded path_eq => cases hpath.symm.trans path_eq
    | some path =>
      obtain ⟨loaded, hload, rfl⟩ := loads_of_hasSettings h hpath
      exact .inr ⟨path, loaded.source, rfl, Invocation.run_loadSettings_iff.1 hload⟩
  · rintro (⟨hpath, rfl, rfl⟩ | ⟨path, source, hpath, hloads⟩)
    · exact .none hpath
    · cases hignores : inv.ignoresSettings with
      | true =>
        cases hloads with
        | disabled => exact .disabled hpath hignores
        | named attempts | searched attempts => cases hignores.symm.trans attempts
      | false => exact .loaded hpath hignores (Invocation.run_loadSettings_iff.2 hloads)

theorem takesIn_iff :
    TakesIn host inv t w s text w' ↔
      ∃ w₁ w₂, HasSettings host inv t w s w₁ ∧ host.Reads t.input w₁ (.ok text) w₂ ∧
        (host.logAll (t.events s text) w₂).2 = w' := by
  simp only [TakesIn, Host.run_readInput_iff]

theorem fails_settings_iff :
    Fails host inv t w .settings f w' ↔
      ∃ path, t.settingsPath? = some path ∧ inv.Loads host w path (.error f) w' := by
  constructor
  · intro h
    cases h with
    | settings path_eq _ fails => exact ⟨_, path_eq, Invocation.run_loadSettings_iff.1 fails⟩
  · rintro ⟨path, hpath, hloads⟩
    have hattempts : inv.ignoresSettings = false := by cases hloads <;> assumption
    exact .settings hpath hattempts (Invocation.run_loadSettings_iff.2 hloads)

theorem fails_input_iff :
    Fails host inv t w .input f w' ↔
      ∃ s w₁, HasSettings host inv t w s w₁ ∧ host.Reads t.input w₁ (.error f) w' := by
  constructor
  · intro h
    cases h with
    | input settings fails => exact ⟨_, _, settings, Host.run_readInput_iff.1 fails⟩
  · rintro ⟨s, w₁, hsettings, hreads⟩
    exact .input hsettings (Host.run_readInput_iff.2 hreads)

theorem fails_output_iff :
    Fails host inv t w .output f w' ↔
      ∃ s text answer w₁, TakesIn host inv t w s text w₁ ∧ t.answer? s text = some answer ∧
        host.Writes answer w₁ t.output (.error f) w' := by
  constructor
  · intro h
    cases h with
    | output takesIn answers fails =>
      exact ⟨_, _, _, _, takesIn, answers, Host.run_writeOutput_iff.1 fails⟩
  · rintro ⟨s, text, answer, w₁, htakes, hanswer, hwrites⟩
    exact .output htakes hanswer (Host.run_writeOutput_iff.2 hwrites)

/-- What makes a run exit with 2, told of the host alone but for what the task makes of a text. -/
theorem failsOutside_iff :
    t.FailsOutside host inv w ↔
      (∃ path f w', t.settingsPath? = some path ∧ inv.Loads host w path (.error f) w') ∨
      (∃ s w₁ f w', HasSettings host inv t w s w₁ ∧ host.Reads t.input w₁ (.error f) w') ∨
      ∃ s text answer w₁ f w', TakesIn host inv t w s text w₁ ∧ t.answer? s text = some answer ∧
        host.Writes answer w₁ t.output (.error f) w' := by
  constructor
  · rintro ⟨stage, f, w', hstage, hfails⟩
    cases stage with
    | settings =>
      obtain ⟨path, hpath, hloads⟩ := fails_settings_iff.1 hfails
      exact .inl ⟨path, f, w', hpath, hloads⟩
    | input =>
      obtain ⟨s, w₁, hsettings, hreads⟩ := fails_input_iff.1 hfails
      exact .inr (.inl ⟨s, w₁, f, w', hsettings, hreads⟩)
    | document => exact absurd rfl hstage
    | output =>
      obtain ⟨s, text, answer, w₁, htakes, hanswer, hwrites⟩ := fails_output_iff.1 hfails
      exact .inr (.inr ⟨s, text, answer, w₁, f, w', htakes, hanswer, hwrites⟩)
  · rintro (⟨path, f, w', hpath, hloads⟩ | ⟨s, w₁, f, w', hsettings, hreads⟩ |
      ⟨s, text, answer, w₁, f, w', htakes, hanswer, hwrites⟩)
    · exact ⟨.settings, f, w', by decide, fails_settings_iff.2 ⟨path, hpath, hloads⟩⟩
    · exact ⟨.input, f, w', by decide, fails_input_iff.2 ⟨s, w₁, hsettings, hreads⟩⟩
    · exact ⟨.output, f, w', by decide,
        fails_output_iff.2 ⟨s, text, answer, w₁, htakes, hanswer, hwrites⟩⟩

/-! ### Which exit code -/

theorem code_of_failsOutside (h : FailsOutside host inv t w) :
    ((t.invocation inv).run host w).1 = 2 := by
  obtain ⟨stage, f, w', hstage, hfails⟩ := h
  have hf : f.isOfDocument = false := by
    rw [isOfDocument_of_fails hfails, beq_eq_false_iff_ne]
    exact hstage
  rw [run_of_fails hfails fun h => absurd h hstage]
  exact Failure.exitCode_of_surroundings hf

/-- If nothing outside fails, then the document has a fault that is told of in the report, or the
answer is written. -/
theorem code_of_not_failsOutside (h : ¬ FailsOutside host inv t w) :
    (FailsInside host inv t w ∧ ((t.invocation inv).run host w).1 = 1) ∨
      (¬ FailsInside host inv t w ∧ ((t.invocation inv).run host w).1 = 0) := by
  obtain ⟨s, text, w₁, htakes⟩ := (takesIn_or_fails host inv t w).resolve_right
    fun ⟨stage, f, w₁, hstage, _, hfails⟩ => h ⟨stage, f, w₁, hstage, hfails⟩
  rcases fault_or_answer t s text with ⟨f, hfault, hinside, -⟩ | ⟨answer, hanswer, -⟩
  · have hfails : Fails host inv t w .document f w₁ := .document htakes hfault
    refine .inl ⟨⟨f, w₁, hfails⟩, ?_⟩
    rw [run_of_fails hfails fun _ => hinside, Failure.exitCode, isOfDocument_of_fault hfault]
    rfl
  · rcases hwrite : (host.writeOutput t.output answer).run w₁ with ⟨f | ⟨⟩, w₂⟩
    · exact absurd ⟨.output, f, w₂, by decide, .output htakes hanswer hwrite⟩ h
    · have hrun := run_of_writes htakes hanswer hwrite
      cases hfault : t.fault? s text with
      | some f => exact .inl ⟨⟨f, w₁, .document htakes hfault⟩, by rw [hrun, hfault]; rfl⟩
      | none =>
        refine .inr ⟨?_, by rw [hrun, hfault]; rfl⟩
        rintro ⟨f, w', hfails⟩
        obtain ⟨s', text', htakes', hfault'⟩ := fails_document_iff.1 hfails
        obtain ⟨rfl, rfl⟩ := takesIn_unique htakes htakes'
        cases hfault.symm.trans hfault'

end Task

/-- The exit code of a task is 2 if and only if loading the settings, reading the input or writing
the output fails, and otherwise 1 if and only if the document cannot be read or drawn, which is
never the fault of Markdown. The first of these failures is what is told of. In JSON, an envelope
takes the place of what is told of a document with a fault: if the envelope is written nothing else
is told, and if it cannot be written this is the failure that counts. -/
theorem Invocation.run_task (host : Host (StateM σ)) (inv : Invocation) (t : Task) (w : σ) :
    (((t.invocation inv).run host w).1 = 2 ↔ t.FailsOutside host inv w) ∧
    (((t.invocation inv).run host w).1 = 1 ↔
      ¬ t.FailsOutside host inv w ∧ t.FailsInside host inv w) ∧
    (((t.invocation inv).run host w).1 = 0 ↔
      ¬ t.FailsOutside host inv w ∧ ¬ t.FailsInside host inv w) ∧
    (∀ r, t = .embed r → ¬ t.FailsInside host inv w) ∧
    (∀ stage f w', Fails host inv t w stage f w' →
      (stage = .document → t.tellsInside f = false) →
      (t.invocation inv).run host w = (f.exitCode, (inv.tell host (.ofFailure f) w').2)) ∧
    (∀ f w', Fails host inv t w .document f w' → t.tellsInside f = true →
      ∃ e, Envelope.ofFailure? f = some e ∧
        ∀ w'', ((host.writeOutput t.output (e.text ++ "\n")).run w' = (.ok (), w'') →
            (t.invocation inv).run host w = (1, w'')) ∧
          ∀ g, (host.writeOutput t.output (e.text ++ "\n")).run w' = (.error g, w'') →
            (t.invocation inv).run host w =
              (g.exitCode, (inv.tell host (.ofFailure g) w'').2)) := by
  have hcases : (t.FailsOutside host inv w ∧ ((t.invocation inv).run host w).1 = 2) ∨
      ¬ t.FailsOutside host inv w ∧
        ((t.FailsInside host inv w ∧ ((t.invocation inv).run host w).1 = 1) ∨
        (¬ t.FailsInside host inv w ∧ ((t.invocation inv).run host w).1 = 0)) := by
    by_cases h : t.FailsOutside host inv w
    · exact .inl ⟨h, Task.code_of_failsOutside h⟩
    · exact .inr ⟨h, Task.code_of_not_failsOutside h⟩
  refine ⟨?_, ?_, ?_, ?_, fun stage f w' => Task.run_of_fails, ?_⟩
  · grind
  · grind
  · grind
  · rintro r rfl ⟨f, w', hfails⟩
    obtain ⟨s, text, -, hfault⟩ := Task.fails_document_iff.1 hfails
    cases hfault
  · intro f w' hfails hinside
    obtain ⟨s, text, htakes, hfault⟩ := Task.fails_document_iff.1 hfails
    rcases Task.fault_or_answer t s text with ⟨g, hg, hnotInside, -⟩ | ⟨answer, hanswer, htells⟩
    · cases hfault.symm.trans hg
      cases hinside.symm.trans hnotInside
    · obtain ⟨-, e, he, rfl⟩ := htells f hfault
      refine ⟨e, he, fun w'' => ⟨fun hwrite => ?_, fun g hwrite => ?_⟩⟩
      · rw [Task.run_of_writes htakes hanswer hwrite, hfault, Task.remark_of_tellsInside hinside]
        rfl
      · exact Task.run_of_fails (.output htakes hanswer hwrite) (fun h => nomatch h)

/-- A document with a fault and an output that is a directory: the fault is to go inside the
envelope, which cannot be written. -/
theorem Invocation.run_task_of_two_faults :
    let t := Task.render { format := .json, output := some "/" }
    let inv : Invocation := { ignoresSettings := true, command := t.command }
    let w : World := { nodes := [], workingPlace := [], userDirectory := none,
                       standardInput := "x".toUTF8 }
    t.FailsInside World.host inv w ∧ ((t.invocation inv).run World.host w).1 = 2 := by
  intro t inv w
  have htakes : ChartText.TakesIn World.host inv t w {} "x" w :=
    ⟨_, _, .disabled rfl rfl, World.run_readInput_standard (World.textOfBytes_toUTF8 "x"), rfl⟩
  obtain ⟨f, hfault⟩ : ∃ f, t.fault? {} "x" = some f :=
    Option.isSome_iff_exists.1 (by decide +kernel)
  obtain ⟨answer, hanswer⟩ : ∃ answer, t.answer? {} "x" = some answer :=
    Option.isSome_iff_exists.1 (by decide +kernel)
  have hwrite : (World.host.writeOutput t.output answer).run w =
      (.error (.io (FileError.message .isDirectory)), w) := rfl
  refine ⟨⟨f, w, .document htakes hfault⟩, ?_⟩
  exact (run_task World.host inv t w).1.2 ⟨.output, _, w, by decide, .output htakes hanswer hwrite⟩

end ChartText
