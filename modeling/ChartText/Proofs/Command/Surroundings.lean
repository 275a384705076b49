import ChartText.Proofs.Command.Steps

/-! # What the surroundings decide

Loading the settings, reading the input and writing the output depend on nothing but what the host
answers. `Settings.LoadsFrom`, `Settings.LoadsFirst`, `Invocation.Loads`, `Host.Reads` and
`Host.Writes` are the rules of these steps: one for each way in which a step can end, with the
answers of the host that it takes. The steps run by their rules (`Invocation.run_loadSettings_iff`,
`Host.run_readInput_iff`, `Host.run_writeOutput_iff`). -/

namespace ChartText

variable {σ α β : Type} {w w' w₁ : σ} {files : FileView (StateM σ)} {host : Host (StateM σ)}
  {decode : String → Except Toml.Fault Settings} {inv : Invocation} {path text : String}

theorem bind_of_look {look : StateM σ β} {x : β} {next : β → StateM σ α} (h : look w = (x, w')) :
    (look >>= next) w = next x w' := by
  rw [bind_apply, h]

theorem run_bind_of_look {look : StateM σ β} {x : β} {next : β → ExceptT Failure (StateM σ) α}
    (h : look w = (x, w')) :
    ((liftM look : ExceptT Failure (StateM σ) β) >>= next).run w = (next x).run w' :=
  bind_of_look h

/-! ### Settings -/

namespace Settings

inductive LoadsFrom (files : FileView (StateM σ)) (decode : String → Except Toml.Fault Settings)
    (path : String) (w : σ) : Except Failure LoadedSettings → σ → Prop
  | absent {w' : σ} (isPresent : files.isPresent path w = (false, w')) :
      LoadsFrom files decode path w
        (.error (.configuration ("Configuration file not found: " ++ path))) w'
  | unreadable {w₁ w' : σ} {reason : String} (isPresent : files.isPresent path w = (true, w₁))
      (reads : files.readText path w₁ = (.error reason, w')) :
      LoadsFrom files decode path w (.error (.unreadable path reason)) w'
  | undecodable {w₁ w' : σ} {text : String} {fault : Toml.Fault}
      (isPresent : files.isPresent path w = (true, w₁))
      (reads : files.readText path w₁ = (.ok text, w')) (decodes : decode text = .error fault) :
      LoadsFrom files decode path w (.error (.undecodableSettings fault)) w'
  | invalid {w₁ w' : σ} {text : String} {s : Settings} {fault : SettingsFault}
      (isPresent : files.isPresent path w = (true, w₁))
      (reads : files.readText path w₁ = (.ok text, w')) (decodes : decode text = .ok s)
      (isInvalid : s.fault? = some fault) :
      LoadsFrom files decode path w (.error (.configuration fault.message)) w'
  | loaded {w₁ w' : σ} {text : String} {s : Settings}
      (isPresent : files.isPresent path w = (true, w₁))
      (reads : files.readText path w₁ = (.ok text, w')) (decodes : decode text = .ok s)
      (isValid : s.IsValid) : LoadsFrom files decode path w (.ok ⟨s, some path⟩) w'

/-- The candidates are looked at in turn, and the first that is there decides. -/
inductive LoadsFirst (files : FileView (StateM σ)) (decode : String → Except Toml.Fault Settings) :
    List String → σ → Except Failure LoadedSettings → σ → Prop
  | default {w : σ} :
      LoadsFirst files decode [] w (.ok ⟨{}, none⟩) (files.log .defaultSettings w).2
  | here {path : String} {rest : List String} {w w₁ w' : σ} {r : Except Failure LoadedSettings}
      (isPresent : files.isPresent path w = (true, w₁))
      (loads : LoadsFrom files decode path (files.log (.usingSettings path) w₁).2 r w') :
      LoadsFirst files decode (path :: rest) w r w'
  | later {path : String} {rest : List String} {w w₁ w' : σ} {r : Except Failure LoadedSettings}
      (isAbsent : files.isPresent path w = (false, w₁))
      (loads : LoadsFirst files decode rest (files.log (.noSettings path) w₁).2 r w') :
      LoadsFirst files decode (path :: rest) w r w'

variable {r : Except Failure LoadedSettings} {paths : List String}

theorem LoadsFrom.run_eq (h : LoadsFrom files decode path w r w') :
    loadFrom files decode path w = (r, w') := by
  unfold loadFrom
  cases h with
  | absent isPresent => exact bind_of_look isPresent
  | unreadable isPresent reads => exact (bind_of_look isPresent).trans (bind_of_look reads)
  | undecodable isPresent reads decodes =>
    refine (bind_of_look isPresent).trans ((bind_of_look reads).trans ?_)
    simp only [decoded, decodes]
    rfl
  | invalid isPresent reads decodes isInvalid =>
    refine (bind_of_look isPresent).trans ((bind_of_look reads).trans ?_)
    simp only [decoded, decodes, validated, isInvalid]
    rfl
  | loaded isPresent reads decodes isValid =>
    refine (bind_of_look isPresent).trans ((bind_of_look reads).trans ?_)
    simp only [decoded, decodes, validated, show _ = none from isValid]
    rfl

theorem exists_loadsFrom (files : FileView (StateM σ))
    (decode : String → Except Toml.Fault Settings) (path : String) (w : σ) :
    ∃ r w', LoadsFrom files decode path w r w' := by
  rcases hpresent : files.isPresent path w with ⟨_ | _, w₁⟩
  · exact ⟨_, _, .absent hpresent⟩
  · rcases hreads : files.readText path w₁ with ⟨reason | text, w'⟩
    · exact ⟨_, _, .unreadable hpresent hreads⟩
    · cases hdecodes : decode text with
      | error fault => exact ⟨_, _, .undecodable hpresent hreads hdecodes⟩
      | ok s =>
        cases hfault : s.fault? with
        | some fault => exact ⟨_, _, .invalid hpresent hreads hdecodes hfault⟩
        | none => exact ⟨_, _, .loaded hpresent hreads hdecodes hfault⟩

theorem loadFrom_iff :
    loadFrom files decode path w = (r, w') ↔ LoadsFrom files decode path w r w' := by
  refine ⟨fun h => ?_, LoadsFrom.run_eq⟩
  obtain ⟨r', w'', hloads⟩ := exists_loadsFrom files decode path w
  cases hloads.run_eq.symm.trans h
  exact hloads

theorem loadFirst_iff :
    loadFirst files decode paths w = (r, w') ↔ LoadsFirst files decode paths w r w' := by
  induction paths generalizing w with
  | nil =>
    refine ⟨fun h => ?_, ?_⟩
    · cases h
      exact .default
    · rintro ⟨⟩
      rfl
  | cons path rest ih =>
    rw [loadFirst]
    rcases hpresent : files.isPresent path w with ⟨_ | _, w₁⟩
    · rw [bind_of_look hpresent]
      refine Iff.trans ih ⟨.later hpresent, fun h => ?_⟩
      cases h with
      | here isPresent => cases hpresent.symm.trans isPresent
      | later isAbsent loads =>
        cases hpresent.symm.trans isAbsent
        exact loads
    · rw [bind_of_look hpresent]
      refine Iff.trans loadFrom_iff ⟨.here hpresent, fun h => ?_⟩
      cases h with
      | here isPresent loads =>
        cases hpresent.symm.trans isPresent
        exact loads
      | later isAbsent => cases hpresent.symm.trans isAbsent

end Settings

namespace Invocation

/-- The settings are those of the file that is named, or else of the first candidate that exists,
unless settings are not to be loaded. -/
inductive Loads (host : Host (StateM σ)) (inv : Invocation) (w : σ) :
    Option String → Except Failure LoadedSettings → σ → Prop
  | disabled {path : Option String} (ignores : inv.ignoresSettings = true) :
      Loads host inv w path (.ok ⟨{}, none⟩) (host.log .settingsDisabled w).2
  | named {path : String} {r : Except Failure LoadedSettings} {w' : σ}
      (attempts : inv.ignoresSettings = false)
      (loads : Settings.LoadsFrom host.toFileView Settings.ofText path w r w') :
      Loads host inv w (some path) r w'
  | searched {paths : List String} {w₁ w' : σ} {r : Except Failure LoadedSettings}
      (attempts : inv.ignoresSettings = false)
      (candidates : Settings.candidates host.toFileView w = (paths, w₁))
      (loads : Settings.LoadsFirst host.toFileView Settings.ofText paths w₁ r w') :
      Loads host inv w none r w'

theorem run_loadSettings_iff {path : Option String} {r : Except Failure LoadedSettings} :
    (inv.loadSettings host path).run w = (r, w') ↔ Loads host inv w path r w' := by
  unfold loadSettings
  cases hignores : inv.ignoresSettings with
  | true =>
    rw [if_pos rfl]
    refine ⟨fun h => ?_, fun h => ?_⟩
    · cases h
      exact .disabled hignores
    · cases h with
      | disabled => rfl
      | named attempts | searched attempts => cases hignores.symm.trans attempts
  | false =>
    rw [if_neg Bool.false_ne_true]
    cases path with
    | some path =>
      refine Iff.trans Settings.loadFrom_iff ⟨.named hignores, fun h => ?_⟩
      cases h with
      | disabled ignores => cases hignores.symm.trans ignores
      | named _ loads => exact loads
    | none =>
      rcases hcandidates : Settings.candidates host.toFileView w with ⟨paths, w₁⟩
      have hload : Settings.load host.toFileView Settings.ofText w =
          Settings.loadFirst host.toFileView Settings.ofText paths w₁ := bind_of_look hcandidates
      change Settings.load host.toFileView Settings.ofText w = (r, w') ↔ _
      rw [hload, Settings.loadFirst_iff]
      refine ⟨.searched hignores hcandidates, fun h => ?_⟩
      cases h with
      | disabled ignores => cases hignores.symm.trans ignores
      | searched _ candidates loads =>
        cases hcandidates.symm.trans candidates
        exact loads

end Invocation

/-! ### Input and output -/

namespace Host

/-- The file that an input names, unless it stands for the standard input. -/
def inputFile? (input : Option String) : Option String :=
  input.filter (· != standardPath)

inductive Reads (host : Host (StateM σ)) (input : Option String) (w : σ) :
    Except Failure String → σ → Prop
  | file {path text : String} {w' : σ} (file : inputFile? input = some path)
      (reads : host.readText path (host.log (.readingInput path) w).2 = (.ok text, w')) :
      Reads host input w (.ok text) w'
  | unreadable {path reason : String} {w' : σ} (file : inputFile? input = some path)
      (reads : host.readText path (host.log (.readingInput path) w).2 = (.error reason, w')) :
      Reads host input w (.error (.unreadable path reason)) w'
  | standard {text : String} {w' : σ} (file : inputFile? input = none)
      (reads : host.readStandardInput (host.log .readingStandardInput w).2 = (.ok text, w')) :
      Reads host input w (.ok text) w'
  | noStandard {reason : String} {w' : σ} (file : inputFile? input = none)
      (reads : host.readStandardInput (host.log .readingStandardInput w).2 = (.error reason, w')) :
      Reads host input w (.error (.io reason)) w'

theorem readInput_of_file {input : Option String} (h : inputFile? input = some path) :
    host.readInput input = (do
      host.log (.readingInput path)
      match ← host.readText path with
      | .ok text => return text
      | .error reason => throw (.unreadable path reason)) := by
  obtain ⟨rfl, hpath⟩ := Option.filter_eq_some_iff.1 h
  exact if_neg (by simpa using hpath)

theorem readInput_of_standard {input : Option String} (h : inputFile? input = none) :
    host.readInput input = readInput.fromStandardInput host := by
  cases input with
  | none => rfl
  | some path => exact if_pos (by simpa [inputFile?] using h)

theorem Reads.run_eq {input : Option String} {r : Except Failure String}
    (h : host.Reads input w r w') : (host.readInput input).run w = (r, w') := by
  cases h with
  | file file reads | unreadable file reads =>
    rw [readInput_of_file file]
    exact (run_bind_of_look rfl).trans (run_bind_of_look reads)
  | standard file reads | noStandard file reads =>
    rw [readInput_of_standard file]
    exact (run_bind_of_look rfl).trans (run_bind_of_look reads)

theorem run_readInput_iff {input : Option String} {r : Except Failure String} :
    (host.readInput input).run w = (r, w') ↔ host.Reads input w r w' := by
  refine ⟨fun h => ?_, Reads.run_eq⟩
  have hreads : ∃ r' w'', host.Reads input w r' w'' := by
    cases hfile : inputFile? input with
    | some path =>
      rcases hreads : host.readText path (host.log (.readingInput path) w).2 with
        ⟨reason | text, w''⟩
      · exact ⟨_, _, .unreadable hfile hreads⟩
      · exact ⟨_, _, .file hfile hreads⟩
    | none =>
      rcases hreads : host.readStandardInput (host.log .readingStandardInput w).2 with
        ⟨reason | text, w''⟩
      · exact ⟨_, _, .noStandard hfile hreads⟩
      · exact ⟨_, _, .standard hfile hreads⟩
  obtain ⟨r', w'', hreads⟩ := hreads
  cases hreads.run_eq.symm.trans h
  exact hreads

/-- The directory of a file is there. -/
inductive MakesWay (host : Host (StateM σ)) (path : String) (w : σ) : σ → Prop
  | working (parent : parentPath? path = none) : MakesWay host path w w
  | above {directory : String} {w' : σ} (parent : parentPath? path = some directory)
      (makes : host.createDirectories directory w = (.ok (), w')) : MakesWay host path w w'

inductive Writes (host : Host (StateM σ)) (text : String) (w : σ) :
    Option String → Except Failure Unit → σ → Prop
  | printed : Writes host text w none (.ok ()) (host.printOutput text w).2
  | noDirectory {path directory reason : String} {w' : σ}
      (parent : parentPath? path = some directory)
      (makes : host.createDirectories directory w = (.error reason, w')) :
      Writes host text w (some path) (.error (.io reason)) w'
  | unwritable {path reason : String} {w₁ w' : σ} (makesWay : host.MakesWay path w w₁)
      (writes : host.writeText path text w₁ = (.error reason, w')) :
      Writes host text w (some path) (.error (.io reason)) w'
  | written {path : String} {w₁ w' : σ} (makesWay : host.MakesWay path w w₁)
      (writes : host.writeText path text w₁ = (.ok (), w')) :
      Writes host text w (some path) (.ok ()) (host.log (.wroteOutput path text.utf8ByteSize) w').2

theorem run_attempt {action : StateM σ (Except String Unit)} {done : Except String Unit}
    (h : action w = (done, w')) : (attempt action).run w = (done.mapError .io, w') := by
  refine (run_bind_of_look h).trans ?_
  cases done <;> rfl

theorem run_writeOutput_of_makesWay (h : host.MakesWay path w w₁) :
    (host.writeOutput (some path) text).run w = (host.writeFile path text).run w₁ := by
  unfold writeOutput
  dsimp only
  cases h with
  | working parent => rw [parent]
  | above parent makes =>
    rw [parent]
    exact run_bind_ok (run_attempt makes)

theorem Writes.run_eq {output : Option String} {r : Except Failure Unit}
    (h : host.Writes text w output r w') : (host.writeOutput output text).run w = (r, w') := by
  cases h with
  | printed => rfl
  | noDirectory parent makes =>
    unfold writeOutput
    dsimp only
    rw [parent]
    exact run_bind_error (run_attempt makes)
  | unwritable makesWay writes =>
    rw [run_writeOutput_of_makesWay makesWay]
    exact run_bind_error (run_attempt writes)
  | written makesWay writes =>
    rw [run_writeOutput_of_makesWay makesWay]
    exact run_bind_ok (run_attempt writes)

theorem run_writeOutput_iff {output : Option String} {r : Except Failure Unit} :
    (host.writeOutput output text).run w = (r, w') ↔ host.Writes text w output r w' := by
  refine ⟨fun h => ?_, Writes.run_eq⟩
  have hfile {path : String} {w₁ : σ} (hway : host.MakesWay path w w₁) :
      ∃ r' w'', host.Writes text w (some path) r' w'' := by
    rcases hwrites : host.writeText path text w₁ with ⟨reason | ⟨⟩, w''⟩
    · exact ⟨_, _, .unwritable hway hwrites⟩
    · exact ⟨_, _, .written hway hwrites⟩
  have hwrites : ∃ r' w'', host.Writes text w output r' w'' := by
    cases output with
    | none => exact ⟨_, _, .printed⟩
    | some path =>
      cases hparent : parentPath? path with
      | none => exact hfile (.working hparent)
      | some directory =>
        rcases hmakes : host.createDirectories directory w with ⟨reason | ⟨⟩, w₁⟩
        · exact ⟨_, _, .noDirectory hparent hmakes⟩
        · exact hfile (.above hparent hmakes)
  obtain ⟨r', w'', hwrites⟩ := hwrites
  cases hwrites.run_eq.symm.trans h
  exact hwrites

end Host

/-! ### No document is to blame -/

variable {f : Failure}

theorem Settings.LoadsFrom.isOfDocument_eq_false
    (h : LoadsFrom files decode path w (.error f) w') : f.isOfDocument = false := by
  cases h <;> rfl

theorem Settings.LoadsFirst.isOfDocument_eq_false {paths : List String}
    (h : LoadsFirst files decode paths w (.error f) w') : f.isOfDocument = false := by
  induction paths generalizing w with
  | nil => cases h
  | cons path rest ih =>
    cases h with
    | here _ loads => exact loads.isOfDocument_eq_false
    | later _ loads => exact ih loads

theorem Invocation.Loads.isOfDocument_eq_false {path : Option String}
    (h : inv.Loads host w path (.error f) w') : f.isOfDocument = false := by
  cases h with
  | named _ loads => exact loads.isOfDocument_eq_false
  | searched _ _ loads => exact loads.isOfDocument_eq_false

theorem Host.Reads.isOfDocument_eq_false {input : Option String}
    (h : host.Reads input w (.error f) w') : f.isOfDocument = false := by
  cases h <;> rfl

theorem Host.Writes.isOfDocument_eq_false {output : Option String}
    (h : host.Writes text w output (.error f) w') : f.isOfDocument = false := by
  cases h <;> rfl

end ChartText
