import ChartText.Proofs.Chart.RoundTrip

/-! # Reading envelopes

The text of an envelope is read as the JSON object that it was made of (`Envelope.parse?_text`),
whose fields can be looked up by their names. Diagnostics come back whole: `Diagnostic.ofJson?`
reads what `Diagnostic.toJson` makes. -/

namespace ChartText
namespace Json

/-! ### Fields -/

/-- The value of a field of an object. -/
def field? (name : String) : Json → Option Json
  | .object fields => (fields.find? (·.1 == some name)).map Prod.snd
  | _ => none

theorem field?_ofFields {fields : List (String × Option Json)} (hd : (fields.map Prod.fst).Nodup)
    {name : String} {value : Option Json} (hf : (name, value) ∈ fields) :
    (ofFields fields).field? name = value :=
  find?_present hd hf

theorem field?_ofFields_eq_none {fields : List (String × Option Json)} {name : String}
    (h : name ∉ fields.map Prod.fst) : (ofFields fields).field? name = none := by
  show ((present fields).find? (·.1 == some name)).map Prod.snd = none
  rw [Option.map_eq_none_iff, List.find?_eq_none]
  rintro ⟨key, v⟩ hmem hkey
  obtain ⟨name', rfl, hf⟩ := mem_present.mp hmem
  obtain rfl : name' = name := by simpa using hkey
  exact h (List.mem_map_of_mem hf)

/-! ### Natural numbers -/

def toNat? : Json → Option Nat
  | .number literal =>
    if literal.all Char.isDigit then some (Literal.natOfDigits literal) else none
  | _ => none

theorem isWhole_toDigits (n : Nat) : IsWhole (Nat.toDigits 10 n) := by
  rcases Nat.eq_zero_or_pos n with rfl | hn
  · rw [Nat.toDigits_zero]
    exact .zero
  · obtain ⟨d, ds, hd, h0⟩ := head_toDigits hn
    have hdigits := isDigits_toDigits n
    rw [hd] at hdigits ⊢
    exact .digits hdigits h0

theorem readable_ofNat (n : Nat) : Readable (ofNat n) := by
  have hnumber := isNumber_of_parts (.inl rfl) (isWhole_toDigits n) .nil .nil
  simp only [List.nil_append, List.append_nil] at hnumber
  exact .number hnumber

theorem toNat?_ofNat (n : Nat) : (ofNat n).toNat? = some n := by
  have hall : (Nat.toDigits 10 n).all Char.isDigit = true :=
    List.all_eq_true.mpr (isDigits_toDigits n).isDigit
  show (if (Nat.toDigits 10 n).all Char.isDigit then some (Nat.ofDigitChars 10 _ 0) else none) = _
  rw [if_pos hall, Nat.ofDigitChars_ten_toDigits]

end Json

open Json

/-! ### Diagnostics -/

namespace Diagnostic

def ofJson? (v : Json) : Option Diagnostic := do
  match ← v.record? ["line", "message", "hint", "source"] with
  | [some line, some message, hint, source] =>
    return {
      line := ← line.toNat?
      message := ← message.toText?
      hint := ← fieldOr none (toOption? toText?) hint
      source := ← fieldOr none (toOption? toText?) source }
  | _ => none

theorem ofJson?_toJson (d : Diagnostic) : ofJson? d.toJson = some d := by
  have hrecord : d.toJson.record? ["line", "message", "hint", "source"] = some
      [some (ofNat d.line), some (ofString d.message), d.hint.map ofString,
        d.source.map ofString] :=
    record?_ofFields (by simp)
  rw [ofJson?, hrecord]
  simp [toNat?_ofNat, toText?_ofString, fieldOr_text]

theorem readable_toJson (d : Diagnostic) : Readable d.toJson := by
  refine readable_ofFields ?_
  simp only [List.forall_mem_cons, Option.some.injEq, Option.map_eq_some_iff]
  refine ⟨?_, ?_, ?_, ?_, by simp⟩
  · rintro v rfl
    exact readable_ofNat d.line
  · rintro v rfl
    exact .string d.message
  · rintro v ⟨hint, -, rfl⟩
    exact .string hint
  · rintro v ⟨source, -, rfl⟩
    exact .string source

theorem toList?_listToJson (ds : List Diagnostic) : (listToJson ds).toList? ofJson? = some ds :=
  toList?_map fun d _ => ofJson?_toJson d

theorem readable_listToJson (ds : List Diagnostic) : Readable (listToJson ds) :=
  readable_array fun d _ => readable_toJson d

end Diagnostic

/-! ### Envelopes -/

namespace Envelope

/-- The chart in the envelope, if there is one, has finite numbers. -/
def HasFiniteChart : Envelope → Prop
  | rendered chart _ => ∀ x ∈ chart.numbers, x.isFinite = true
  | invalid _ | failed _ => True

theorem readable_toJson {e : Envelope} (h : e.HasFiniteChart) : Readable e.toJson := by
  cases e with
  | rendered chart svg =>
    refine readable_ofFields ?_
    simp only [List.forall_mem_cons, Option.some.injEq, forall_eq']
    exact ⟨.bool true, Chart.readable_toJson h, .string svg, by simp⟩
  | invalid diagnostics =>
    refine readable_ofFields ?_
    simp only [List.forall_mem_cons, Option.some.injEq, forall_eq']
    exact ⟨.bool false, Diagnostic.readable_listToJson diagnostics, by simp⟩
  | failed error =>
    refine readable_ofFields ?_
    simp only [List.forall_mem_cons, Option.some.injEq, forall_eq']
    exact ⟨.bool false, .string error.message, .string "RENDER_ERROR", by simp⟩

theorem parse?_text {e : Envelope} (h : e.HasFiniteChart) : Json.parse? e.text = some e.toJson := by
  have hparse := parse?_pretty (readable_toJson h) [] (by simp)
  rwa [String.ofList_nil, String.append_empty] at hparse

end Envelope
end ChartText
