import ChartText.Proofs.Json.Number
import ChartText.Proofs.Json.Record
import ChartText.Proofs.Source.WellFormed
import ChartText.Rendering

/-! # Charts that are written and read again

The JSON form of a chart leaves out the fields that are absent, and reading it fills them in again
(`Chart.ofJson?_toJson`). Its text can be read if all numbers are finite (`Chart.readable_toJson`),
and they are in every chart that was read (`ChartForm.isFinite_of_read`). The numbers themselves come
back if each is read back from its own text (`ReadsBack`), which a reader that rounds twice cannot
promise for all doubles; `Chart.roundTrip` asks it of the numbers of the chart alone. -/

namespace ChartText
open Json

/-- The double is read back from its text. -/
def ReadsBack (x : Float) : Prop :=
  (ofFloat x).toFloat? = some x

instance : DecidablePred ReadsBack := fun x =>
  inferInstanceAs (Decidable ((ofFloat x).toFloat? = some x))

/-! ### The parts of a chart -/

theorem ChartType.ofJson?_toJson (t : ChartType) : ofJson? t.toJson = some t := by
  cases t <;> decide

theorem Series.ofJson?_toJson {s : Series} (h : ∀ x ∈ s.values, ReadsBack x) :
    ofJson? s.toJson = some s := by
  have hrecord : s.toJson.record? ["name", "values", "color"] = some
      [some (ofString s.name), some (.array (s.values.map ofFloat)), s.color.map ofString] :=
    record?_ofFields (by simp)
  have hvalues : (Json.array (s.values.map ofFloat)).toList? toFloat? = some s.values :=
    toList?_map h
  rw [ofJson?, hrecord]
  simp [toText?_ofString, hvalues, fieldOr_text]

theorem Hints.ofJson?_toJson (h : Hints) : ofJson? h.toJson = some h := by
  have hrecord : h.toJson.record? ["xAxis", "yAxis", "theme", "colors"] = some
      [h.xAxis.map ofString, h.yAxis.map ofString, h.theme.map ofString, h.colors.map ofStrings] :=
    record?_ofFields (by simp)
  have hcolors : fieldOr none (toOption? (toList? toText?)) (h.colors.map ofStrings) =
      some h.colors :=
    fieldOr_map (fun ss _ => toList?_ofStrings ss) (by simp [ofStrings])
  rw [ofJson?, hrecord]
  simp [hcolors, fieldOr_text]

/-! ### Charts -/

namespace Chart

theorem ofJson?_toJson {c : Chart} (h : ∀ x ∈ c.numbers, ReadsBack x) :
    ofJson? c.toJson = some c := by
  obtain ⟨hvalues, hseries⟩ := forall_mem_numbers.mp h
  have hrecord : c.toJson.record? ["type", "title", "subtitle", "labels", "values", "series", "meta"] =
      some [some c.type.toJson, c.title.map ofString, c.subtitle.map ofString,
        some (ofStrings c.labels), some (.array (c.values.map ofFloat)),
        c.series.map fun series => .array (series.map Series.toJson), c.hints.map Hints.toJson] :=
    record?_ofFields (by simp)
  have hvalues : (Json.array (c.values.map ofFloat)).toList? toFloat? = some c.values :=
    toList?_map hvalues
  have hseries : fieldOr none (toOption? (toList? Series.ofJson?))
      (c.series.map fun series => .array (series.map Series.toJson)) = some c.series :=
    fieldOr_map (fun ss hss => toList?_map fun s hs => Series.ofJson?_toJson (hseries ss hss s hs))
      (by simp)
  have hhints : fieldOr none (toOption? Hints.ofJson?) (c.hints.map Hints.toJson) = some c.hints :=
    fieldOr_map (fun h _ => Hints.ofJson?_toJson h) (by simp [Hints.toJson, ofFields])
  have htype : fieldOr .bar ChartType.ofJson? (some c.type.toJson) = some c.type :=
    ChartType.ofJson?_toJson c.type
  rw [ofJson?, hrecord]
  simp [htype, fieldOr_text, toList?_ofStrings, hvalues, hseries, hhints]

end Chart

/-! ### The JSON of a chart can be read -/

theorem Series.readable_toJson {s : Series} (h : ∀ x ∈ s.values, x.isFinite = true) :
    Readable s.toJson := by
  refine readable_ofFields ?_
  simp only [List.forall_mem_cons, Option.some.injEq, Option.map_eq_some_iff]
  refine ⟨?_, ?_, ?_, by simp⟩
  · rintro v rfl
    exact .string s.name
  · rintro v rfl
    exact readable_ofFloats h
  · rintro v ⟨color, -, rfl⟩
    exact .string color

theorem Hints.readable_toJson (h : Hints) : Readable h.toJson := by
  refine readable_ofFields ?_
  simp only [List.forall_mem_cons, Option.map_eq_some_iff]
  refine ⟨?_, ?_, ?_, ?_, by simp⟩
  · rintro v ⟨s, -, rfl⟩
    exact .string s
  · rintro v ⟨s, -, rfl⟩
    exact .string s
  · rintro v ⟨s, -, rfl⟩
    exact .string s
  · rintro v ⟨ss, -, rfl⟩
    exact readable_ofStrings ss

theorem Chart.readable_toJson {c : Chart} (h : ∀ x ∈ c.numbers, x.isFinite = true) :
    Readable c.toJson := by
  obtain ⟨hvalues, hseries⟩ := forall_mem_numbers.mp h
  refine readable_ofFields ?_
  simp only [List.forall_mem_cons, Option.some.injEq, Option.map_eq_some_iff]
  refine ⟨?_, ?_, ?_, ?_, ?_, ?_, ?_, by simp⟩
  · rintro v rfl
    exact .string c.type.name
  · rintro v ⟨s, -, rfl⟩
    exact .string s
  · rintro v ⟨s, -, rfl⟩
    exact .string s
  · rintro v rfl
    exact readable_ofStrings c.labels
  · rintro v rfl
    exact readable_ofFloats hvalues
  · rintro v ⟨ss, hss, rfl⟩
    exact readable_array fun s hs => Series.readable_toJson (hseries ss hss s hs)
  · rintro v ⟨hints, -, rfl⟩
    exact hints.readable_toJson

/-! ### Charts that were read have finite numbers -/

theorem isFinite_of_toList? {v : Json} {xs : List Float} (h : v.toList? toFloat? = some xs) :
    ∀ x ∈ xs, x.isFinite = true := by
  intro x hx
  obtain ⟨w, hw⟩ := of_toList? h hx
  unfold toFloat? at hw
  split at hw
  · exact isFinite_of_floatOfLiteral? hw
  · cases hw

theorem Series.isFinite_of_ofJson? {v : Json} {s : Series} (h : ofJson? v = some s) :
    ∀ x ∈ s.values, x.isFinite = true := by
  unfold ofJson? at h
  obtain ⟨fields, -, h⟩ := Option.bind_eq_some_iff.mp h
  split at h
  · simp only [Option.bind_eq_bind, Option.bind_eq_some_iff, Option.pure_def,
      Option.some.injEq] at h
    obtain ⟨name, -, values, hvalues, color, -, rfl⟩ := h
    exact isFinite_of_toList? hvalues
  · cases h

theorem Chart.isFinite_of_ofJson? {v : Json} {c : Chart} (h : ofJson? v = some c) :
    ∀ x ∈ c.numbers, x.isFinite = true := by
  unfold ofJson? at h
  obtain ⟨fields, -, h⟩ := Option.bind_eq_some_iff.mp h
  split at h
  · simp only [Option.bind_eq_bind, Option.bind_eq_some_iff, Option.pure_def,
      Option.some.injEq] at h
    obtain ⟨type, -, title, -, subtitle, -, labels, -, values, hvalues, series, hseries, hints, -,
      rfl⟩ := h
    refine forall_mem_numbers.mpr ⟨isFinite_of_toList? hvalues, fun ss hss s hs => ?_⟩
    obtain rfl : series = some ss := hss
    obtain ⟨w, hw⟩ := of_fieldOr hseries
    obtain ⟨u, hu⟩ := of_toList? hw hs
    exact Series.isFinite_of_ofJson? hu
  · cases h

theorem ChartForm.isFinite_of_read {form : ChartForm} {text : String} {c : Chart}
    (h : form.read text = .ok c) : ∀ x ∈ c.numbers, x.isFinite = true := by
  cases form with
  | document =>
    simp only [ChartForm.read] at h
    split at h
    · next chart hp =>
      cases h
      obtain ⟨header, rows, rfl, hheader, hne, hrows⟩ := Source.parse_eq_chartOf hp
      exact (Source.wellFormed_chartOf hheader hne hrows).finite
    · cases h
  | json =>
    simp only [ChartForm.read, Chart.ofJsonText?] at h
    split at h
    · next chart hp =>
      cases h
      obtain ⟨v, -, hv⟩ := Option.bind_eq_some_iff.mp hp
      exact Chart.isFinite_of_ofJson? hv
    · cases h

/-! ### Writing a chart and reading it again -/

theorem Chart.read_toJsonText {c : Chart} (hfinite : ∀ x ∈ c.numbers, x.isFinite = true)
    (hreads : ∀ x ∈ c.numbers, ReadsBack x) (blanks : List Char) (hb : ∀ b ∈ blanks, b = '\n') :
    ChartForm.json.read (c.toJsonText ++ String.ofList blanks) = .ok c := by
  rw [ChartForm.read, ofJsonText?, toJsonText, parse?_pretty (readable_toJson hfinite) blanks hb,
    Option.bind_some, ofJson?_toJson hreads]

/-- The JSON form of a chart stands for the chart, provided that its finite numbers are read back
from their texts: it is read as the chart, and a document is drawn as the JSON text made of it. -/
theorem Chart.roundTrip {c : Chart}
    (hreads : ∀ x ∈ c.numbers, x.isFinite = true → ReadsBack x) :
    ((∀ x ∈ c.numbers, x.isFinite = true) → ChartForm.json.read c.toJsonText = .ok c) ∧
      (∀ source, ChartForm.document.read source = .ok c →
        ∃ text, documentToJson source = .ok text ∧
          ∀ s : DrawingSettings, s.picture .json text = s.picture .document source) ∧
      ∀ form text, ChartForm.read form text = .ok c → ChartForm.json.read c.toJsonText = .ok c := by
  have hread (hfinite : ∀ x ∈ c.numbers, x.isFinite = true) :
      ChartForm.json.read c.toJsonText = .ok c := by
    have := read_toJsonText hfinite (fun x hx => hreads x hx (hfinite x hx)) [] (by simp)
    simpa using this
  refine ⟨hread, fun source h => ?_, fun form text h => hread (ChartForm.isFinite_of_read h)⟩
  refine ⟨c.toJsonText ++ "\n", by rw [documentToJson, h]; rfl, fun s => ?_⟩
  have hfinite := ChartForm.isFinite_of_read h
  have hline : ChartForm.json.read (c.toJsonText ++ "\n") = .ok c :=
    read_toJsonText hfinite (fun x hx => hreads x hx (hfinite x hx)) ['\n'] (by simp)
  rw [DrawingSettings.picture, DrawingSettings.picture, h, hline]

/-- A chart with control characters, a negative zero and parts that are there but empty, and a
document with ragged rows. -/
theorem Chart.roundTrip_escapes :
    (let c : Chart :=
      { title := some "a\"\\\x01\n\x7f😀", labels := ["", "b"], values := [-0.0, 0.1], series := some []
        hints := some {} }
    ChartForm.json.read c.toJsonText = .ok c) ∧
      ∃ text, documentToJson "Title: \"T\"\nA: 0.1, -2\nB: $3" = .ok text ∧
        ∀ s : DrawingSettings,
          s.picture .json text = s.picture .document "Title: \"T\"\nA: 0.1, -2\nB: $3" := by
  have hparse : Source.parse .standard "Title: \"T\"\nA: 0.1, -2\nB: $3" =
      .ok { title := some "T", labels := ["A", "B"], values := [0.1, 3.0]
            series := some [⟨"Series 1", [0.1, 3.0], none⟩, ⟨"Series 2", [-2.0, 0.0], none⟩] } := by
    decide +kernel
  refine ⟨(roundTrip (by decide +kernel)).1 (by decide +kernel), ?_⟩
  refine (roundTrip ?_).2.1 _ (by rw [ChartForm.read, Source.parseStandard, hparse])
  decide +kernel

end ChartText
