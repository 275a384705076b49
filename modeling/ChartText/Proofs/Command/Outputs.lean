import ChartText.Command.Arguments
import ChartText.Proofs.Command.ExitCodes
import ChartText.Proofs.Command.Answers

/-! # Outputs

A command changes no file but its output. A task that prints its answer and the same task that
writes it to a file end with the same exit code and tell of the same things, but that writing a file
is an event of the log. The file holds what the other run printed; if nothing is printed, no file
changes (`Invocation.execute_output`). -/

namespace ChartText

variable {inv : Invocation} {t : Task} {w w₁ w' : World} {s : Settings} {text : String}
  {stage : Stage} {f : Failure} {path : String}

/-! ### The same task with another output -/

namespace Task

/-- The task with its answer written elsewhere. -/
def withOutput (o : Option String) : Task → Task
  | parse input _ => parse input o
  | render r => render { r with output := o }
  | embed r => embed { r with output := o }

variable (o : Option String)

@[simp] theorem output_withOutput : (t.withOutput o).output = o := by
  cases t <;> rfl

@[simp] theorem input_withOutput : (t.withOutput o).input = t.input := by
  cases t <;> rfl

@[simp] theorem settingsPath?_withOutput : (t.withOutput o).settingsPath? = t.settingsPath? := by
  cases t <;> rfl

@[simp] theorem tellsInside_withOutput : (t.withOutput o).tellsInside = t.tellsInside := by
  cases t <;> rfl

@[simp] theorem fault?_withOutput : (t.withOutput o).fault? = t.fault? := by
  cases t <;> rfl

@[simp] theorem answer?_withOutput : (t.withOutput o).answer? = t.answer? := by
  cases t <;> rfl

@[simp] theorem events_withOutput : (t.withOutput o).events = t.events := by
  cases t <;> rfl

@[simp] theorem remark_withOutput {σ : Type} (host : Host (StateM σ)) :
    (t.withOutput o).remark host inv = t.remark host inv := by
  cases t <;> rfl

section
variable {σ : Type} {host : Host (StateM σ)} {w w₁ : σ}

theorem hasSettings_withOutput (h : HasSettings host inv t w s w₁) :
    HasSettings host inv (t.withOutput o) w s w₁ := by
  cases h with
  | none path_eq => exact .none (by rwa [settingsPath?_withOutput])
  | disabled path_eq ignores => exact .disabled (by rwa [settingsPath?_withOutput]) ignores
  | loaded path_eq attempts loads =>
    exact .loaded (by rwa [settingsPath?_withOutput]) attempts loads

theorem takesIn_withOutput (h : TakesIn host inv t w s text w₁) :
    TakesIn host inv (t.withOutput o) w s text w₁ := by
  obtain ⟨w₂, w₃, hsettings, hread, hlog⟩ := h
  exact ⟨w₂, w₃, hasSettings_withOutput o hsettings, by rwa [input_withOutput],
    by rwa [events_withOutput]⟩

/-- What fails before there is an answer does not depend on where the answer goes. -/
theorem fails_withOutput (h : Fails host inv t w stage f w₁) (hstage : stage ≠ .output) :
    Fails host inv (t.withOutput o) w stage f w₁ := by
  cases h with
  | settings path_eq attempts fails =>
    exact .settings (by rwa [settingsPath?_withOutput]) attempts fails
  | input settings fails =>
    exact .input (hasSettings_withOutput o settings) (by rwa [input_withOutput])
  | document takesIn fault =>
    exact .document (takesIn_withOutput o takesIn) (by rwa [fault?_withOutput])
  | output => exact absurd rfl hstage

end

/-! ### Tasks change nothing but the log before they write -/

theorem logs_of_hasSettings (h : HasSettings World.host inv t w s w') : World.Logs w w' := by
  cases h with
  | none => exact .refl w
  | disabled => exact World.logs_log _ w
  | loaded _ _ loads => exact World.logs_of_loads (Invocation.run_loadSettings_iff.1 loads)

theorem logs_of_takesIn (h : TakesIn World.host inv t w s text w') : World.Logs w w' := by
  obtain ⟨w₁, w₂, hsettings, hread, rfl⟩ := h
  have hinput := World.logs_of_reads (Host.run_readInput_iff.1 hread)
  exact ((logs_of_hasSettings hsettings).trans hinput).trans (World.logs_logAll _ w₂)

theorem logs_of_fails (h : Fails World.host inv t w stage f w') (hstage : stage ≠ .output) :
    World.Logs w w' := by
  cases h with
  | settings _ _ fails => exact World.logs_of_loads (Invocation.run_loadSettings_iff.1 fails)
  | input settings fails =>
    exact (logs_of_hasSettings settings).trans
      (World.logs_of_reads (Host.run_readInput_iff.1 fails))
  | document takesIn => exact logs_of_takesIn takesIn
  | output => exact absurd rfl hstage

theorem answers_or_fails (inv : Invocation) (t : Task) (w : World) :
    (∃ s text answer w₁, TakesIn World.host inv t w s text w₁ ∧ t.answer? s text = some answer) ∨
      ∃ stage f w₁, stage ≠ .output ∧ Fails World.host inv t w stage f w₁ ∧
        (stage = .document → t.tellsInside f = false) := by
  rcases takesIn_or_fails World.host inv t w with
    ⟨s, text, w₁, htakes⟩ | ⟨stage, f, w₁, hdocument, houtput, hfails⟩
  · rcases fault_or_answer t s text with ⟨f, hfault, hinside, -⟩ | ⟨answer, hanswer, -⟩
    · exact .inr ⟨.document, f, w₁, by decide, .document htakes hfault, fun _ => hinside⟩
    · exact .inl ⟨s, text, answer, w₁, htakes, hanswer⟩
  · exact .inr ⟨stage, f, w₁, houtput, hfails, fun h => absurd h hdocument⟩

/-- What a task tells after writing is added to what has been told, and does not depend on the
world. -/
theorem remark_world (inv : Invocation) (t : Task) (s : Settings) (text : String) :
    ∃ note, ∀ w : World,
      (t.remark World.host inv s text w).2 = { w with errors := w.errors ++ note } := by
  have hnone (w : World) : w = { w with errors := w.errors ++ [] } := by rw [List.append_nil]
  cases t with
  | parse => exact ⟨[], hnone⟩
  | render r => exact ⟨[], hnone⟩
  | embed r =>
    unfold remark
    dsimp only
    split
    · exact ⟨_, fun w => rfl⟩
    · exact ⟨[], hnone⟩

end Task

/-! ### Writable paths -/

namespace World

/-- A text can be written to the path. -/
def IsWritable (w : World) (path : String) : Prop :=
  ∃ w', (host.writeOutput (some path) "").run w = (.ok (), w')

/-- The text is at the path, and this is all that is new in the files, but for directories that were
missing. -/
def PutAt (path text : String) (w w' : World) : Prop :=
  ∃ p, w'.locate path = .ok p ∧ w'.node? p = some (.file text.toUTF8) ∧
    ∀ q ≠ p, w'.node? q = w.node? q ∨ w.node? q = none ∧ w'.node? q = some .directory

theorem PutAt.congr {w₁ w₂ : World} (h : PutAt path text w₁ w₂) (hbefore : w.nodes = w₁.nodes)
    (hafter : w'.nodes = w₂.nodes) (hplace : w'.workingPlace = w₂.workingPlace) :
    PutAt path text w w' := by
  obtain ⟨p, hlocate, hnode, hframe⟩ := h
  refine ⟨p, (locate_congr hafter hplace path).trans hlocate, ?_, fun q hq => ?_⟩
  · rwa [node?, hafter]
  · have hq' := hframe q hq
    simp only [node?, hafter, hbefore] at hq' ⊢
    exact hq'

theorem putAt_of_writeText {w₁ : World} (hgains : GainsDirectories w w₁)
    (h : w₁.writeText path text = .ok w') : PutAt path text w w' := by
  obtain ⟨p, hlocate, hp, rfl⟩ := writeText_eq_ok h
  refine ⟨p, locate_put hp hlocate, node?_put_self (place_ne_nil hp), fun q hq => ?_⟩
  rw [node?_put_of_ne hq]
  exact hgains.2 q

/-- Any text can be written to a path that one can be written to, in any world with the same
files. -/
theorem makesWay_congr {w₁ v : World} (h : host.MakesWay path w w₁) (hnodes : v.nodes = w.nodes)
    (hplace : v.workingPlace = w.workingPlace) :
    ∃ v₁, host.MakesWay path v v₁ ∧ v₁.nodes = w₁.nodes ∧ v₁.workingPlace = w₁.workingPlace := by
  have hkept : w₁.workingPlace = w.workingPlace := by
    obtain ⟨nodes, rfl⟩ := (gainsDirectories_of_makesWay h).1
    rfl
  cases h with
  | working parent => exact ⟨v, .working parent, hnodes, hplace⟩
  | @above directory w₁ parent makes =>
    obtain ⟨v₁, hv₁, hnodes₁, hplace₁⟩ :=
      makeWay_congr hnodes (host_createDirectories_eq_ok_iff.1 makes)
    have hmakes : v.createDirectories directory = .ok v₁ := by
      rw [createDirectories, startOf, hplace]
      exact hv₁
    exact ⟨v₁, .above parent (host_createDirectories_eq_ok_iff.2 hmakes), hnodes₁,
      hplace₁.trans (hplace.trans hkept.symm)⟩

theorem writes_of_isWritable (h : w.IsWritable path) (v : World) (hnodes : v.nodes = w.nodes)
    (hplace : v.workingPlace = w.workingPlace) (text : String) :
    ∃ v', (host.writeOutput (some path) text).run v =
        (.ok (), v'.log (.wroteOutput path text.utf8ByteSize)) ∧ DiffersInFiles v v' ∧
      PutAt path text v v' := by
  obtain ⟨w', h⟩ := h
  cases Host.run_writeOutput_iff.1 h with
  | @written path w₁ w₂ makesWay writes =>
    obtain ⟨v₁, hway, hnodes₁, hplace₁⟩ := makesWay_congr makesWay hnodes hplace
    obtain ⟨p, -, -, hany⟩ := place_of_writeText (host_writeText_eq_ok_iff.1 writes)
    have hput := hany v₁ text hnodes₁ hplace₁
    have hgains := gainsDirectories_of_makesWay hway
    exact ⟨_, Host.run_writeOutput_iff.2 (.written hway (host_writeText_eq_ok_iff.2 hput)),
      hgains.1.trans (differsInFiles_writeText hput), putAt_of_writeText hgains hput⟩

end World

/-! ### Runs with and without an output file -/

namespace Task

/-- A run that prints its answer, and the same run that writes it to a file, which the log may tell
before what the task remarks at its end. -/
theorem run_withOutput_of_answer {answer : String} (htakes : TakesIn World.host inv t w s text w')
    (hanswer : t.answer? s text = some answer) (hwritable : w.IsWritable path) :
    ∃ code before after w₁ w₂,
      ((t.withOutput none).invocation inv).run World.host w = (code, w₁) ∧
      ((t.withOutput (some path)).invocation inv).run World.host w = (code, w₂) ∧
      w₁.nodes = w.nodes ∧ w₂.output = w.output ∧ w₁.output = w.output ++ answer ∧
      World.PutAt path answer w w₂ ∧ w₁.errors = before ++ after ∧
      w₂.errors = before ++ w.entries (.wroteOutput path answer.utf8ByteSize) ++ after ∧
      code = if (t.fault? s text).isSome then 1 else 0 := by
  obtain ⟨note, hnote⟩ := remark_world inv t s text
  have hrun {o : Option String} {w₁ : World}
      (hwrite : (World.host.writeOutput o answer).run w' = (.ok (), w₁)) :
      ((t.withOutput o).invocation inv).run World.host w =
        (if (t.fault? s text).isSome then 1 else 0, { w₁ with errors := w₁.errors ++ note }) := by
    rw [run_of_writes (takesIn_withOutput o htakes) (by rwa [answer?_withOutput])
      (by rwa [output_withOutput]), fault?_withOutput, remark_withOutput, hnote]
  obtain ⟨events, hw'⟩ := logs_of_takesIn htakes
  obtain ⟨w₂, hwrite, ⟨nodes, rfl⟩, hput⟩ :=
    World.writes_of_isWritable hwritable w' (by rw [hw']) (by rw [hw']) answer
  subst hw'
  exact ⟨_, _, note, _, _, hrun (o := none) rfl, hrun hwrite, rfl, rfl, rfl,
    hput.congr rfl rfl rfl, rfl, rfl, rfl⟩

theorem run_withOutput_of_fails (hstage : stage ≠ .output)
    (h : Fails World.host inv t w stage f w') (hf : stage = .document → t.tellsInside f = false)
    (o : Option String) :
    ((t.withOutput o).invocation inv).run World.host w =
      (f.exitCode, (inv.tell World.host (.ofFailure f) w').2) :=
  run_of_fails (fails_withOutput o h hstage) (by rwa [tellsInside_withOutput])

end Task

/-! ### Commands about settings -/

namespace Invocation

theorem nodes_announce (inv : Invocation) (line : String) (w : World) :
    (inv.announce World.host line w).2.nodes = w.nodes := by
  unfold announce
  split <;> rfl

/-- The place of the file is all that may change, and not even this if there is something that is to
be kept. -/
theorem run_init (inv : Invocation) (w : World) (output : String) (force : Bool) :
    ∃ code w', ({ inv with command := .init output force } : Invocation).run World.host w =
        (code, w') ∧
      (∀ p, w.locate output ≠ .ok p → w'.node? p = w.node? p) ∧
      (w.isPresent output = true → force = false → code = 2 ∧ w'.nodes = w.nodes) := by
  let inv' : Invocation := { inv with command := .init output force }
  have hlook : (liftM (World.host.isPresent output) : ExceptT Failure (StateM World) Bool).run w =
      (.ok (w.isPresent output), w) := rfl
  cases hkeep : w.isPresent output && !force with
  | true =>
    have hrun : (inv'.runCommand World.host).run w = (.error (.configuration
        ("Configuration file already exists: " ++ output ++ ". Use --force to overwrite.")), w) :=
      (run_bind_ok hlook).trans (by simp only [hkeep]; rfl)
    exact ⟨_, _, run_of_fail inv' hrun, fun _ _ => rfl, fun _ _ => ⟨rfl, rfl⟩⟩
  | false =>
    have hnotKept : w.isPresent output = true → force = false → False := by
      intro hpresent hforce
      rw [hpresent, hforce] at hkeep
      cases hkeep
    have hrun : (inv'.runCommand World.host).run w = (do
        Host.attempt (World.host.writeText output Settings.template)
        World.host.log (.wroteTemplate output)
        (inv'.announce World.host ("Created configuration file: " ++ output) : StateM World Unit)
        return 0 : ExceptT Failure (StateM World) Nat).run w :=
      (run_bind_ok hlook).trans (by simp only [hkeep]; rfl)
    cases hwrite : w.writeText output Settings.template with
    | ok w' =>
      obtain ⟨p, hlocate, -, rfl⟩ := World.writeText_eq_ok hwrite
      have hattempt := Host.run_attempt (World.host_writeText_eq_ok_iff.2 hwrite)
      have hdone : inv'.run World.host w =
          (0, (inv'.announce World.host ("Created configuration file: " ++ output)
            ((w.put p (.file Settings.template.toUTF8)).log (.wroteTemplate output))).2) :=
        run_of_ok inv' (hrun.trans (run_bind_ok hattempt))
      refine ⟨_, _, hdone, fun q hq => ?_, fun h h' => (hnotKept h h').elim⟩
      have hq' : q ≠ p := by
        rintro rfl
        exact hq hlocate
      rw [World.node?, nodes_announce]
      exact World.node?_put_of_ne hq'
    | error e =>
      have hrefused : World.host.writeText output Settings.template w = (.error e.message, w) := by
        simp only [World.host, World.change, hwrite]
      exact ⟨_, _, run_of_fail inv' (hrun.trans (run_bind_error (Host.run_attempt hrefused))),
        fun _ _ => rfl, fun h h' => (hnotKept h h').elim⟩

theorem run_validateSettings (inv : Invocation) (w : World) (path : String) :
    ∃ code w', ({ inv with command := .validateSettings path } : Invocation).run World.host w =
      (code, w') ∧ w'.nodes = w.nodes := by
  let inv' : Invocation := { inv with command := .validateSettings path }
  rcases hload : Settings.loadFrom World.host.toFileView Settings.ofText path w with ⟨r, w'⟩
  obtain ⟨events, rfl⟩ := World.logs_of_loadsFrom (Settings.loadFrom_iff.1 hload)
  cases r with
  | ok loaded => exact ⟨0, _, run_of_ok inv' (run_bind_ok hload), nodes_announce inv' _ _⟩
  | error f => exact ⟨_, _, run_of_fail inv' (run_bind_error hload), rfl⟩

theorem run_showSettings (inv : Invocation) (w : World) (path : Option String)
    (format : SettingsFormat) :
    ∃ code w', ({ inv with command := .showSettings path format } : Invocation).run World.host w =
      (code, w') ∧ w'.nodes = w.nodes := by
  let inv' : Invocation := { inv with command := .showSettings path format }
  rcases hload : (inv'.loadSettings World.host path).run w with ⟨r, w'⟩
  obtain ⟨events, rfl⟩ := World.logs_of_loads (run_loadSettings_iff.1 hload)
  cases r with
  | ok loaded => exact ⟨_, _, run_of_ok inv' (run_bind_ok hload), rfl⟩
  | error f => exact ⟨_, _, run_of_fail inv' (run_bind_error hload), rfl⟩

/-! ### The whole program -/

/-- The world in which a command is carried out, once it is fixed what the log shows. -/
def start (inv : Invocation) (w : World) : World :=
  { w with shows := w.requestedEvents.getD inv.shows }

/-- That a file is written is a detail, which is shown from the second `-v` on. -/
theorem shows_wroteOutput_iff (inv : Invocation) (path : String) (bytes : Nat) :
    inv.shows (.wroteOutput path bytes) = true ↔ inv.quiet = false ∧ 2 ≤ inv.verbosity := by
  unfold shows logLevel?
  cases inv.quiet with
  | true => simp
  | false =>
    rcases inv.verbosity with _ | _ | _ | n <;>
      simp [LogEvent.level, LogLevel.rank]

/-- Whether a task prints its answer or writes it to a file makes no difference to its exit code:
the file holds exactly what is printed, no other file changes, and if the task fails before it has
an answer then none does. Nor does it make one to what is told, except that the log may show that
the file was written. Only what is to be told in an envelope is printed or written when the exit
code is not 0. Making a settings file changes no other file and keeps one that is there unless it is
forced, and showing and checking settings change none. -/
theorem execute_output (inv : Invocation) (w : World) :
    (∀ (t : Task) (path : String), w.IsWritable path →
      ∃ code w₁ w₂, ((t.withOutput none).invocation inv).execute World.host w = (code, w₁) ∧
        ((t.withOutput (some path)).invocation inv).execute World.host w = (code, w₂) ∧
        w₁.nodes = w.nodes ∧ w₂.output = w.output ∧
        ((∃ text before after, w₁.output = w.output ++ text ∧ World.PutAt path text w w₂ ∧
            w₁.errors = before ++ after ∧
            w₂.errors = before ++
              (inv.start w).entries (.wroteOutput path text.utf8ByteSize) ++ after ∧
            (code = 0 ∨ ∃ r e, t = .render r ∧ r.format = .json ∧
              text = Envelope.text e ++ "\n")) ∨
          (code ≠ 0 ∧ w₁.output = w.output ∧ w₂.nodes = w.nodes ∧ w₂.errors = w₁.errors ∧
            ∃ stage f w', stage ≠ .output ∧ Fails World.host inv t (inv.start w) stage f w' ∧
              (stage = .document → t.tellsInside f = false)))) ∧
    (∀ path bytes, w.requestedEvents = none →
      (inv.start w).entries (.wroteOutput path bytes) =
        if inv.quiet = false ∧ 2 ≤ inv.verbosity then [.event (.wroteOutput path bytes)] else []) ∧
    (∀ output force,
      ∃ code w', ({ inv with command := .init output force } : Invocation).execute World.host w =
          (code, w') ∧
        (∀ p, w.locate output ≠ .ok p → w'.node? p = w.node? p) ∧
        (w.isPresent output = true → force = false → code = 2 ∧ w'.nodes = w.nodes)) ∧
    (∀ path,
      ∃ code w', ({ inv with command := .validateSettings path } : Invocation).execute World.host w =
        (code, w') ∧ w'.nodes = w.nodes) ∧
    (∀ path format,
      ∃ code w', ({ inv with command := .showSettings path format } : Invocation).execute
        World.host w = (code, w') ∧ w'.nodes = w.nodes) := by
  refine ⟨fun t path hwritable => ?_, fun path bytes hrequested => ?_, fun output force => ?_,
    inv.run_validateSettings (inv.start w), inv.run_showSettings (inv.start w)⟩
  · have hstart : (inv.start w).IsWritable path := by
      obtain ⟨w', hwrite, -⟩ := World.writes_of_isWritable hwritable (inv.start w) rfl rfl ""
      exact ⟨_, hwrite⟩
    rcases Task.answers_or_fails inv t (inv.start w) with
      ⟨s, text, answer, w', htakes, hanswer⟩ | ⟨stage, f, w', hstage, hfails, hinside⟩
    · obtain ⟨code, before, after, w₁, w₂, hprint, hwrite, hnodes, houtput, hprinted, hput,
        hbefore, hafter, hcode⟩ := Task.run_withOutput_of_answer htakes hanswer hstart
      refine ⟨code, w₁, w₂, hprint, hwrite, hnodes, houtput, .inl ⟨answer, before, after, hprinted,
        hput.congr rfl rfl rfl, hbefore, hafter, ?_⟩⟩
      cases hfault : t.fault? s text with
      | none => exact .inl (by rw [hcode, hfault]; rfl)
      | some f =>
        obtain ⟨htells, e, -, htext⟩ := Task.tells_of_answer hanswer hfault
        obtain ⟨r, rfl, hformat⟩ := Task.render_of_tellsInside htells
        exact .inr ⟨r, e, rfl, hformat, htext⟩
    · obtain ⟨events, hlogs⟩ := Task.logs_of_fails hfails hstage
      have hcode : f.exitCode ≠ 0 := by
        unfold Failure.exitCode
        split <;> decide
      refine ⟨f.exitCode, _, _, Task.run_withOutput_of_fails hstage hfails hinside none,
        Task.run_withOutput_of_fails hstage hfails hinside (some path), ?_, ?_,
        .inr ⟨hcode, ?_, ?_, rfl, stage, f, w', hstage, hfails, hinside⟩⟩
      all_goals
        subst hlogs
        rfl
  · have hshows : (inv.start w).shows = inv.shows := by rw [start, hrequested, Option.getD_none]
    simp only [World.entries, hshows, inv.shows_wroteOutput_iff]
  · obtain ⟨code, w', hrun, hframe, hkeep⟩ := inv.run_init (inv.start w) output force
    rw [@World.isPresent_congr w (inv.start w) rfl rfl] at hkeep
    simp only [@World.locate_congr w (inv.start w) rfl rfl] at hframe
    exact ⟨code, w', hrun, hframe, hkeep⟩

/-- Markdown without charts, written over a file with `-vv`, and a settings file that would be made
in its place. -/
theorem execute_output_over_file :
    let w : World := { nodes := [(["out"], .file "y".toUTF8)], workingPlace := [],
                       userDirectory := none, standardInput := "x".toUTF8 }
    let inv : Invocation := { verbosity := 2, ignoresSettings := true, command := .embed {} }
    w.IsWritable "out" ∧ w.requestedEvents = none ∧ w.isPresent "out" = true ∧
      (∃ code w₁ w₂,
        (((Task.embed {}).withOutput none).invocation inv).execute World.host w = (code, w₁) ∧
        (((Task.embed {}).withOutput (some "out")).invocation inv).execute World.host w =
          (code, w₂) ∧
        w₁.nodes = w.nodes ∧ w₂.output = "") ∧
      (inv.start w).entries (.wroteOutput "out" 1) = [.event (.wroteOutput "out" 1)] ∧
      ∃ w', ({ inv with command := .init "out" false } : Invocation).execute World.host w =
        (2, w') ∧ w'.nodes = w.nodes := by
  intro w inv
  have hwritable : w.IsWritable "out" := ⟨_, rfl⟩
  have hpresent : w.isPresent "out" = true := by decide +kernel
  obtain ⟨htask, hlogged, hinit, -⟩ := execute_output inv w
  obtain ⟨code, w₁, w₂, hprint, hwrite, hnodes, houtput, -⟩ := htask (.embed {}) "out" hwritable
  obtain ⟨code', w', hrun, -, hkeep⟩ := hinit "out" false
  obtain ⟨rfl, hkept⟩ := hkeep hpresent rfl
  exact ⟨hwritable, rfl, hpresent, ⟨code, w₁, w₂, hprint, hwrite, hnodes, houtput⟩,
    hlogged "out" 1 rfl, w', hrun, hkept⟩

/-- With `-vv` the two runs do not tell the same: only the second one has written a file. -/
theorem execute_output_logged :
    let w : World := { nodes := [], workingPlace := [], userDirectory := none,
                       standardInput := "A: 1".toUTF8 }
    let errors (arguments : List String) : Option (List ErrorEntry) :=
      (Invocation.ofArguments arguments).toOption.map fun inv =>
        (inv.execute World.host w).2.errors
    w.IsWritable "out" ∧
      errors ["-vv", "parse"] =
        some [.event .readingStandardInput, .event (.readDocument .bar 1)] ∧
      errors ["-vv", "parse", "-o", "out"] =
        some [.event .readingStandardInput, .event (.readDocument .bar 1),
          .event (.wroteOutput "out" 74)] :=
  ⟨⟨_, rfl⟩, by decide +kernel, by decide +kernel⟩

end Invocation

end ChartText
