import ChartText.Settings.Discovery

/-! # Which settings are loaded

On files that stay as they are the first candidate that exists decides alone: settings are loaded
from it, or loading fails with what is wrong with it (`load_eq`). Whatever way settings are loaded,
the check of `Settings.fault?` has found nothing, and their source is the file whose text they were
decoded from (`loadFrom_eq_ok_iff`). -/

namespace ChartText.Settings

variable {files : FileView Id} {decode : String → Except Toml.Fault Settings} {s t : Settings}
  {path : String} {loaded : LoadedSettings}

/-! ### From a text -/

theorem isValid_default : ({} : Settings).IsValid := by
  unfold IsValid
  decide

theorem validated_eq_ok_iff : s.validated = .ok t ↔ s = t ∧ t.IsValid := by
  unfold validated IsValid
  cases hs : s.fault? with
  | none =>
    simp only [Except.ok.injEq]
    exact ⟨fun h => ⟨h, h ▸ hs⟩, And.left⟩
  | some fault =>
    simp only [reduceCtorEq, false_iff, not_and]
    rintro rfl
    simp [hs]

theorem decoded_eq_ok_iff {text : String} :
    decoded decode text = .ok s ↔ decode text = .ok s ∧ s.IsValid := by
  unfold decoded
  cases decode text with
  | error fault => simp
  | ok t =>
    rw [Except.ok.injEq]
    exact validated_eq_ok_iff

/-! ### From a file -/

/-- The file is there, and the settings are decoded from its text. -/
structure IsReadFrom (files : FileView Id) (decode : String → Except Toml.Fault Settings)
    (path : String) (s : Settings) : Prop where
  isPresent : files.isPresent path = true
  text : ∃ text, files.readText path = .ok text ∧ decode text = .ok s

theorem loadFrom_of_absent (h : files.isPresent path = false) :
    loadFrom files decode path =
      .error (.configuration ("Configuration file not found: " ++ path)) := by
  rw [loadFrom, h]
  rfl

theorem loadFrom_of_present (h : files.isPresent path = true) :
    loadFrom files decode path =
      match files.readText path with
      | .error reason => .error (.unreadable path reason)
      | .ok text => (decoded decode text).map fun s => ⟨s, some path⟩ := by
  rw [loadFrom, h]
  cases files.readText path <;> rfl

theorem loadFrom_eq_ok_iff :
    loadFrom files decode path = .ok loaded ↔
      loaded.source = some path ∧ IsReadFrom files decode path loaded.settings ∧
        loaded.settings.IsValid := by
  obtain ⟨settings, source⟩ := loaded
  cases hp : files.isPresent path with
  | false =>
    rw [loadFrom_of_absent hp]
    refine ⟨nofun, fun ⟨_, h, _⟩ => ?_⟩
    rw [h.isPresent] at hp
    cases hp
  | true =>
    rw [loadFrom_of_present hp]
    constructor
    · intro h
      cases ht : files.readText path with
      | error reason =>
        rw [ht] at h
        cases h
      | ok text =>
        cases hd : decoded decode text with
        | error f =>
          simp only [ht, hd] at h
          cases h
        | ok s =>
          simp only [ht, hd] at h
          cases h
          obtain ⟨hdecode, hvalid⟩ := decoded_eq_ok_iff.mp hd
          exact ⟨rfl, ⟨hp, text, ht, hdecode⟩, hvalid⟩
    · rintro ⟨rfl, ⟨-, text, ht, hdecode⟩, hvalid⟩
      simp only [ht, decoded_eq_ok_iff.mpr ⟨hdecode, hvalid⟩]
      rfl

theorem loadFrom_congr {others : FileView Id}
    (hpresent : others.isPresent path = files.isPresent path)
    (htext : others.readText path = files.readText path) :
    loadFrom others decode path = loadFrom files decode path := by
  rw [loadFrom, hpresent, htext]
  rfl

/-! ### From the first candidate that exists -/

/-- The path of the file in the working directory, if there is such a directory. -/
def localPath? (files : FileView Id) : Option String :=
  files.workingDirectory.map (joinPath · localName)

/-- The path of the file in the user's directory, if there is such a directory. -/
def userPath? (files : FileView Id) : Option String :=
  files.userDirectory.map (joinPath · userName)

/-- There is a file at the path. It may be one that cannot be read or makes no sense. -/
def IsFound (files : FileView Id) (path? : Option String) : Prop :=
  ∃ path, path? = some path ∧ files.isPresent path = true

theorem find?_eq_none {path? : Option String} (h : ¬ IsFound files path?) :
    path?.toList.find? files.isPresent = none := by
  rw [List.find?_eq_none]
  exact fun path hpath hpresent => h ⟨path, Option.mem_toList.mp hpath, hpresent⟩

/-- What lies behind the first path that exists is not looked at. -/
theorem loadFirst_eq (paths : List String) :
    loadFirst files decode paths =
      match paths.find? files.isPresent with
      | none => .ok ⟨{}, none⟩
      | some path => loadFrom files decode path := by
  induction paths with
  | nil => rfl
  | cons path rest ih =>
    rw [loadFirst, List.find?_cons]
    cases files.isPresent path with
    | true => rfl
    | false => exact ih

theorem load_eq :
    load files decode =
      match ((localPath? files).toList ++ (userPath? files).toList).find? files.isPresent with
      | none => .ok ⟨{}, none⟩
      | some path => loadFrom files decode path :=
  loadFirst_eq _

theorem load_of_local (hlocal : localPath? files = some path)
    (hpresent : files.isPresent path = true) : load files decode = loadFrom files decode path := by
  rw [load_eq, hlocal, Option.toList_some, List.singleton_append, List.find?_cons_of_pos hpresent]

theorem load_of_user (hlocal : ¬ IsFound files (localPath? files))
    (huser : userPath? files = some path) (hpresent : files.isPresent path = true) :
    load files decode = loadFrom files decode path := by
  rw [load_eq, List.find?_append, find?_eq_none hlocal, Option.none_or, huser, Option.toList_some,
    List.find?_cons_of_pos hpresent]

theorem load_of_none (hlocal : ¬ IsFound files (localPath? files))
    (huser : ¬ IsFound files (userPath? files)) : load files decode = .ok ⟨{}, none⟩ := by
  rw [load_eq, List.find?_append, find?_eq_none hlocal, Option.none_or, find?_eq_none huser]

theorem load_cases :
    (¬ IsFound files (localPath? files) ∧ ¬ IsFound files (userPath? files) ∧
        load files decode = .ok ⟨{}, none⟩) ∨
      (IsFound files (localPath? files) ∨ IsFound files (userPath? files)) ∧
        ∃ path, load files decode = loadFrom files decode path := by
  by_cases hlocal : IsFound files (localPath? files)
  · obtain ⟨path, hpath, hpresent⟩ := hlocal
    exact .inr ⟨.inl ⟨path, hpath, hpresent⟩, path, load_of_local hpath hpresent⟩
  · by_cases huser : IsFound files (userPath? files)
    · obtain ⟨path, hpath, hpresent⟩ := huser
      exact .inr ⟨.inr ⟨path, hpath, hpresent⟩, path, load_of_user hlocal hpath hpresent⟩
    · exact .inl ⟨hlocal, huser, load_of_none hlocal huser⟩

theorem load_eq_default_iff :
    load files decode = .ok ⟨{}, none⟩ ↔
      ¬ IsFound files (localPath? files) ∧ ¬ IsFound files (userPath? files) := by
  refine ⟨fun h => ?_, fun ⟨hlocal, huser⟩ => load_of_none hlocal huser⟩
  rcases load_cases with ⟨hlocal, huser, -⟩ | ⟨-, path, hpath⟩
  · exact ⟨hlocal, huser⟩
  · -- A file that is loaded is named as the source.
    rw [hpath] at h
    cases (loadFrom_eq_ok_iff.mp h).1

/-- Settings are loaded from the file in the working directory if there is one, whatever is wrong
with it and whatever other files there are, else from the user's file if there is one, and else they
are the default settings. Settings that are loaded are valid, and their source is the file they were
decoded from. -/
theorem load_first (files : FileView Id) (decode : String → Except Toml.Fault Settings) :
    (load files decode = .ok ⟨{}, none⟩ ↔
      ¬ IsFound files (localPath? files) ∧ ¬ IsFound files (userPath? files)) ∧
    (∀ path, localPath? files = some path → files.isPresent path = true →
      load files decode = loadFrom files decode path ∧
        ∀ others : FileView Id, localPath? others = some path → others.isPresent path = true →
          others.readText path = files.readText path →
            load others decode = load files decode) ∧
    (∀ path, ¬ IsFound files (localPath? files) → userPath? files = some path →
      files.isPresent path = true → load files decode = loadFrom files decode path) ∧
    (∀ loaded, load files decode = .ok loaded → loaded.settings.IsValid ∧
      (loaded.source = none → loaded.settings = {}) ∧
        ∀ path, loaded.source = some path → IsReadFrom files decode path loaded.settings) ∧
    ∀ path loaded, loadFrom files decode path = .ok loaded →
      loaded.settings.IsValid ∧ loaded.source = some path ∧
        IsReadFrom files decode path loaded.settings := by
  refine ⟨load_eq_default_iff, fun path hlocal hpresent => ?_,
    fun path hlocal huser hpresent => load_of_user hlocal huser hpresent, fun loaded h => ?_,
    fun path loaded h => ?_⟩
  · refine ⟨load_of_local hlocal hpresent, fun others hlocal' hpresent' htext => ?_⟩
    rw [load_of_local hlocal hpresent, load_of_local hlocal' hpresent',
      loadFrom_congr (hpresent'.trans hpresent.symm) htext]
  · rcases load_cases with ⟨-, -, hnone⟩ | ⟨-, path, hpath⟩
    · rw [hnone] at h
      cases h
      exact ⟨isValid_default, fun _ => rfl, nofun⟩
    · rw [hpath] at h
      obtain ⟨hsource, hread, hvalid⟩ := loadFrom_eq_ok_iff.mp h
      refine ⟨hvalid, fun hnone => ?_, fun path' hpath' => ?_⟩
      · rw [hsource] at hnone
        cases hnone
      · obtain rfl : path = path' := Option.some.inj (hsource.symm.trans hpath')
        exact hread
  · obtain ⟨hsource, hread, hvalid⟩ := loadFrom_eq_ok_iff.mp h
    exact ⟨hvalid, hsource, hread⟩

/-- The user's file is in order, but the one in the working directory goes before it. -/
theorem load_first_unreadable :
    let files : FileView Id :=
      { isPresent := fun _ => true
        readText := fun path => if path == "/work/.plainviz.toml" then .error "denied" else .ok ""
        workingDirectory := some "/work"
        userDirectory := some "/home"
        log := fun _ => () }
    localPath? files = some "/work/.plainviz.toml" ∧ IsFound files (userPath? files) ∧
      load files (fun _ => .ok {}) = .error (.unreadable "/work/.plainviz.toml" "denied") := by
  intro files
  have hlocal : localPath? files = some "/work/.plainviz.toml" := rfl
  obtain ⟨-, hfirst, -⟩ := load_first files fun _ => .ok {}
  obtain ⟨hload, -⟩ := hfirst _ hlocal rfl
  exact ⟨hlocal, ⟨_, rfl, rfl⟩, hload.trans rfl⟩

end ChartText.Settings
