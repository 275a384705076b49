import ChartText.Command.World
import ChartText.Proofs.Command.Surroundings

/-! # What happens to a world

Writing a text to a file changes the files and nothing else, and the text is read back from the path
that it was written to (`readText_writeText`): the file is put where no directory was, so every path
leads where it led before (`walk_put`).

The steps of a command either look at the world, and change nothing but the log (`Logs`), or write a
text to where it is asked for (`Wrote`), by the rules of the steps. -/

namespace ChartText
namespace World

variable {α : Type} {w w' : World}

/-! ### Nodes -/

theorem node?_put_self {p : Place} {n : Node} (hp : p ≠ []) : (w.put p n).node? p = some n := by
  simp [node?, put, hp]

theorem node?_put_of_ne {p q : Place} {n : Node} (h : q ≠ p) : (w.put p n).node? q = w.node? q := by
  have hkeep : (fun entry : Place × Node =>
      decide ((entry.1 != p) = true ∧ (entry.1 == q) = true)) = (·.1 == q) := by
    funext entry
    by_cases hq : entry.1 = q
    · simp [hq, h]
    · simp [hq]
  simp only [node?, put]
  rw [List.find?_cons_of_neg (by simpa using Ne.symm h), List.find?_filter, hkeep]

theorem walk_put {p : Place} {n : Node} (hp : w.node? p ≠ some .directory) {here q : Place}
    {parts : List String} (h : w.walk here parts = .ok q) : (w.put p n).walk here parts = .ok q := by
  induction parts generalizing here with
  | nil => exact h
  | cons part rest ih =>
    rw [walk] at h ⊢
    by_cases hhere : here = p
    · -- The way would end here.
      rw [hhere] at h
      split at h
      · cases h
      · cases h
      · next hdirectory => exact absurd hdirectory hp
    · rw [node?_put_of_ne hhere]
      split at h
      · cases h
      · cases h
      · split at h
        · next hstay => simpa [hstay] using ih h
        · split at h
          · next hstay hup => simpa [hstay, hup] using ih h
          · next hstay hup => simpa [hstay, hup] using ih h

theorem walk_congr (h : w'.nodes = w.nodes) (here : Place) (parts : List String) :
    w'.walk here parts = w.walk here parts := by
  induction parts generalizing here with
  | nil => rfl
  | cons part rest ih => simp only [walk, node?, h, ih]

theorem locate_congr (hnodes : w'.nodes = w.nodes) (hplace : w'.workingPlace = w.workingPlace)
    (path : String) : w'.locate path = w.locate path := by
  simp only [locate, startOf, hplace, walk_congr hnodes]

theorem isPresent_congr (hnodes : w'.nodes = w.nodes) (hplace : w'.workingPlace = w.workingPlace)
    (path : String) : w'.isPresent path = w.isPresent path := by
  simp only [isPresent, locate_congr hnodes hplace, node?, hnodes]

theorem readText_congr (hnodes : w'.nodes = w.nodes) (hplace : w'.workingPlace = w.workingPlace)
    (path : String) : w'.readText path = w.readText path := by
  simp only [readText, locate_congr hnodes hplace, node?, hnodes]

/-! ### Files -/

theorem textOfBytes_toUTF8 (text : String) : textOfBytes text.toUTF8 = .ok text := by
  simp only [textOfBytes, String.fromUTF8?, String.toUTF8_eq_toByteArray, dif_pos text.isValidUTF8]
  rfl

/-- A path that a text can be written to leads to a place where any text can be put as a file, in
any world with the same files. -/
theorem place_of_writeText {path text : String} (h : w.writeText path text = .ok w') :
    ∃ p, w.locate path = .ok p ∧ w.node? p ≠ some .directory ∧
      ∀ (v : World) (other : String), v.nodes = w.nodes → v.workingPlace = w.workingPlace →
        v.writeText path other = .ok (v.put p (.file other.toUTF8)) := by
  unfold writeText at h
  dsimp only at h
  split at h
  · -- A path that ends in a slash is refused, whether it leads somewhere or not.
    generalize w.walk _ _ = there at h
    cases there <;> cases h
  · next hslash =>
    cases hlocate : w.locate path with
    | error e =>
      rw [hlocate] at h
      cases h
    | ok p =>
      simp only [hlocate, bind, Except.bind] at h
      split at h
      · cases h
      · next hp =>
        refine ⟨p, rfl, hp, fun v other hnodes hplace => ?_⟩
        have hlocate' := (locate_congr hnodes hplace path).trans hlocate
        have hnode : v.node? p = w.node? p := by simp only [node?, hnodes]
        simp only [writeText, if_neg hslash, hlocate', bind, Except.bind, hnode]
        rfl

theorem writeText_eq_ok {path text : String} (h : w.writeText path text = .ok w') :
    ∃ p, w.locate path = .ok p ∧ w.node? p ≠ some .directory ∧
      w' = w.put p (.file text.toUTF8) := by
  obtain ⟨p, hlocate, hp, hwrite⟩ := place_of_writeText h
  exact ⟨p, hlocate, hp, Except.ok.inj (h.symm.trans (hwrite w text rfl rfl))⟩

theorem place_ne_nil {p : Place} (hp : w.node? p ≠ some .directory) : p ≠ [] := by
  rintro rfl
  exact hp rfl

theorem locate_put {path : String} {p q : Place} {n : Node} (hp : w.node? p ≠ some .directory)
    (h : w.locate path = .ok q) : (w.put p n).locate path = .ok q := by
  unfold locate at h ⊢
  split at h
  · cases h
  · next hpath =>
    rw [if_neg hpath]
    exact walk_put hp h

theorem readText_writeText {path text : String} (h : w.writeText path text = .ok w') :
    w'.readText path = .ok text := by
  obtain ⟨p, hlocate, hp, rfl⟩ := writeText_eq_ok h
  have hnode := node?_put_self (w := w) (n := .file text.toUTF8) (place_ne_nil hp)
  simp only [readText, locate_put hp hlocate, bind, Except.bind, hnode, textOfBytes_toUTF8]

/-- Only the files differ. -/
def DiffersInFiles (w w' : World) : Prop :=
  ∃ nodes, w' = { w with nodes }

theorem DiffersInFiles.trans {w'' : World} (h : DiffersInFiles w w') (h' : DiffersInFiles w' w'') :
    DiffersInFiles w w'' := by
  obtain ⟨nodes, rfl⟩ := h
  obtain ⟨nodes', rfl⟩ := h'
  exact ⟨nodes', rfl⟩

/-- Directories have been made where there was nothing. -/
def GainsDirectories (w w' : World) : Prop :=
  DiffersInFiles w w' ∧
    ∀ p, w'.node? p = w.node? p ∨ w.node? p = none ∧ w'.node? p = some .directory

theorem GainsDirectories.refl (w : World) : GainsDirectories w w :=
  ⟨⟨_, rfl⟩, fun _ => .inl rfl⟩

theorem GainsDirectories.trans {w'' : World} (h : GainsDirectories w w')
    (h' : GainsDirectories w' w'') : GainsDirectories w w'' := by
  refine ⟨h.1.trans h'.1, fun p => ?_⟩
  rcases h'.2 p with hp' | ⟨hp', hdirectory⟩
  · rw [hp']
    exact h.2 p
  · rcases h.2 p with hp | ⟨-, hdirectory'⟩
    · exact .inr ⟨hp.symm.trans hp', hdirectory⟩
    · cases hp'.symm.trans hdirectory'

theorem gainsDirectories_put {p : Place} (hp : w.node? p = none) :
    GainsDirectories w (w.put p .directory) := by
  refine ⟨⟨_, rfl⟩, fun q => ?_⟩
  by_cases hq : q = p
  · subst hq
    have hne : q ≠ [] := place_ne_nil (by rw [hp]; simp)
    exact .inr ⟨hp, node?_put_self hne⟩
  · exact .inl (node?_put_of_ne hq)

theorem gainsDirectories_makeWay {here : Place} {parts : List String}
    (h : w.makeWay here parts = .ok w') : GainsDirectories w w' := by
  induction parts generalizing w here with
  | nil =>
    cases h
    exact .refl _
  | cons part rest ih =>
    unfold makeWay at h
    extract_lets next at h
    split at h
    · exact ih h
    · cases h
    · next hnext => exact (gainsDirectories_put hnext).trans (ih h)

theorem makeWay_congr {v : World} (hnodes : v.nodes = w.nodes) {here : Place}
    {parts : List String} (h : w.makeWay here parts = .ok w') :
    ∃ v', v.makeWay here parts = .ok v' ∧ v'.nodes = w'.nodes ∧ v'.workingPlace = v.workingPlace := by
  induction parts generalizing w v here with
  | nil =>
    cases h
    exact ⟨v, rfl, hnodes, rfl⟩
  | cons part rest ih =>
    unfold makeWay at h ⊢
    extract_lets next at h
    extract_lets
    have hnode : v.node? next = w.node? next := by simp only [node?, hnodes]
    rw [hnode]
    split at h
    · exact ih hnodes h
    · cases h
    · have hput : (v.put next .directory).nodes = (w.put next .directory).nodes := by
        simp only [put, hnodes]
      exact ih hput h

theorem differsInFiles_writeText {path text : String} (h : w.writeText path text = .ok w') :
    DiffersInFiles w w' := by
  obtain ⟨p, -, -, rfl⟩ := writeText_eq_ok h
  exact ⟨_, rfl⟩

/-! ### Logging -/

/-- Nothing has changed but that events were logged. -/
def Logs (w w' : World) : Prop :=
  ∃ events : List LogEvent, w' = { w with errors := w.errors ++ events.map .event }

theorem Logs.refl (w : World) : Logs w w :=
  ⟨[], by simp⟩

theorem Logs.trans {w'' : World} (h : Logs w w') (h' : Logs w' w'') : Logs w w'' := by
  obtain ⟨events, rfl⟩ := h
  obtain ⟨events', rfl⟩ := h'
  exact ⟨events ++ events', by simp⟩

theorem logs_log (e : LogEvent) (w : World) : Logs w (w.log e) := by
  unfold log entries
  split
  · exact ⟨[e], rfl⟩
  · exact ⟨[], rfl⟩

theorem readText_log (e : LogEvent) (path : String) :
    (w.log e).readText path = w.readText path :=
  @readText_congr w (w.log e) rfl rfl path

theorem logs_logAll (events : List LogEvent) (w : World) : Logs w (host.logAll events w).2 := by
  induction events generalizing w with
  | nil => exact .refl w
  | cons e rest ih => exact (logs_log e w).trans (ih _)

section
variable {decode : String → Except Toml.Fault Settings} {r : Except Failure LoadedSettings}
  {inv : Invocation}

-- Looking at a world leaves the very same world.

theorem logs_of_loadsFrom {path : String}
    (h : Settings.LoadsFrom host.toFileView decode path w r w') : Logs w w' := by
  cases h with
  | absent isPresent =>
    obtain rfl : w = w' := congrArg Prod.snd isPresent
    exact .refl w
  | unreadable isPresent reads | undecodable isPresent reads | invalid isPresent reads
  | loaded isPresent reads =>
    obtain rfl : w = _ := congrArg Prod.snd isPresent
    obtain rfl : w = w' := congrArg Prod.snd reads
    exact .refl w

theorem logs_of_loadsFirst {paths : List String}
    (h : Settings.LoadsFirst host.toFileView decode paths w r w') : Logs w w' := by
  induction h with
  | default => exact logs_log _ _
  | here isPresent loads =>
    cases congrArg Prod.snd isPresent
    exact (logs_log _ _).trans (logs_of_loadsFrom loads)
  | later isAbsent _ ih =>
    cases congrArg Prod.snd isAbsent
    exact (logs_log _ _).trans ih

theorem logs_of_loads {path : Option String} (h : inv.Loads host w path r w') : Logs w w' := by
  cases h with
  | disabled => exact logs_log _ w
  | named _ loads => exact logs_of_loadsFrom loads
  | searched _ candidates loads =>
    obtain rfl : w = _ := congrArg Prod.snd candidates
    exact logs_of_loadsFirst loads

theorem logs_of_reads {input : Option String} {content : Except Failure String}
    (h : host.Reads input w content w') : Logs w w' := by
  cases h with
  | file _ reads | unreadable _ reads | standard _ reads | noStandard _ reads =>
    obtain rfl : w.log _ = w' := congrArg Prod.snd reads
    exact logs_log _ w

end

theorem run_readInput_standard {w : World} {text : String}
    (h : textOfBytes w.standardInput = .ok text) :
    (host.readInput none).run w = (.ok text, w.log .readingStandardInput) := by
  refine Host.run_readInput_iff.2 (.standard rfl ?_)
  change ((textOfBytes w.standardInput).mapError FileError.message, _) = _
  rw [h]
  rfl

/-! ### Writing -/

/-- The text was added to the standard output, or it is the content of the file that was asked for.
Nothing else was printed, though events may have been logged. -/
def Wrote (output : Option String) (text : String) (w w' : World) : Prop :=
  match output with
  | none => Logs { w with output := w.output ++ text } w'
  | some path => w'.readText path = .ok text ∧ ∃ nodes, Logs { w with nodes } w'

theorem Wrote.of_logs {output : Option String} {text : String} {w₁ : World} (h : Logs w w₁)
    (hwrote : Wrote output text w₁ w') : Wrote output text w w' := by
  obtain ⟨events, rfl⟩ := h
  cases output with
  | none =>
    obtain ⟨events', rfl⟩ := hwrote
    exact ⟨events ++ events', by simp⟩
  | some path =>
    obtain ⟨hread, nodes, events', rfl⟩ := hwrote
    exact ⟨hread, nodes, events ++ events', by simp⟩

theorem change_eq_ok_iff {f : World → Except FileError World} :
    change f w = (.ok (), w') ↔ f w = .ok w' := by
  unfold change
  cases f w with
  | ok w'' => exact ⟨fun h => congrArg Except.ok (congrArg Prod.snd h), fun h => by cases h; rfl⟩
  | error e => exact ⟨fun h => (nomatch congrArg Prod.fst h), fun h => nomatch h⟩

theorem host_createDirectories_eq_ok_iff {directory : String} :
    host.createDirectories directory w = (.ok (), w') ↔ w.createDirectories directory = .ok w' :=
  change_eq_ok_iff (f := (·.createDirectories directory))

theorem host_writeText_eq_ok_iff {path text : String} :
    host.writeText path text w = (.ok (), w') ↔ w.writeText path text = .ok w' :=
  change_eq_ok_iff (f := (·.writeText path text))

theorem gainsDirectories_of_makesWay {path : String} (h : host.MakesWay path w w') :
    GainsDirectories w w' := by
  cases h with
  | working => exact .refl w
  | above _ makes => exact gainsDirectories_makeWay (host_createDirectories_eq_ok_iff.1 makes)

theorem wrote_of_writes {output : Option String} {text : String}
    (h : host.Writes text w output (.ok ()) w') : Wrote output text w w' := by
  cases h with
  | printed => exact .refl _
  | @written path w₁ w₂ makesWay writes =>
    have hwrite : w₁.writeText path text = .ok w₂ :=
      host_writeText_eq_ok_iff.1 writes
    have hread := (readText_log (.wroteOutput path text.utf8ByteSize) path).trans
      (readText_writeText hwrite)
    obtain ⟨nodes, rfl⟩ :=
      (gainsDirectories_of_makesWay makesWay).1.trans (differsInFiles_writeText hwrite)
    exact ⟨hread, nodes, logs_log _ _⟩

theorem run_writeOutput (output : Option String) (text : String) (w : World) :
    (∃ w', (host.writeOutput output text).run w = (.ok (), w') ∧ Wrote output text w w') ∨
      ∃ failure w', (host.writeOutput output text).run w = (.error failure, w') ∧
        failure.isOfDocument = false := by
  rcases hrun : (host.writeOutput output text).run w with ⟨f | ⟨⟩, w'⟩
  · exact .inr ⟨f, w', rfl, (Host.run_writeOutput_iff.1 hrun).isOfDocument_eq_false⟩
  · exact .inl ⟨w', rfl, wrote_of_writes (Host.run_writeOutput_iff.1 hrun)⟩

end World
end ChartText
