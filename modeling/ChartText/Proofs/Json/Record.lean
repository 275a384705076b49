import ChartText.Proofs.Json.Literal
import ChartText.Proofs.Lists
import Mathlib.Data.List.Nodup

/-! # Records that were written

An object is written without the fields that have no value. If no two fields have the same name, it
is read as the record that it was made of (`record?_ofFields`), and a field that may be absent comes
back as it was (`fieldOr_map`). -/

namespace ChartText.Json

/-- The fields that have a value. -/
def present (fields : List (String × Option Json)) : List (Option String × Json) :=
  fields.filterMap fun (key, value) => value.map fun v => (some key, v)

theorem mem_present {fields : List (String × Option Json)} {key : Option String} {v : Json} :
    (key, v) ∈ present fields ↔ ∃ name, key = some name ∧ (name, some v) ∈ fields := by
  simp only [present, List.mem_filterMap, Option.map_eq_some_iff, Prod.mk.injEq, Prod.exists]
  constructor
  · rintro ⟨name, value, hf, w, rfl, rfl, rfl⟩
    exact ⟨name, rfl, hf⟩
  · rintro ⟨name, rfl, hf⟩
    exact ⟨name, some v, hf, v, rfl, rfl, rfl⟩

/-- Looking up a name gives the value of its field, because no other field has the name. -/
theorem find?_present {fields : List (String × Option Json)} (hd : (fields.map Prod.fst).Nodup)
    {name : String} {value : Option Json} (hf : (name, value) ∈ fields) :
    ((present fields).find? (·.1 == some name)).map Prod.snd = value := by
  cases hfound : (present fields).find? (·.1 == some name) with
  | none =>
    rw [List.find?_eq_none] at hfound
    cases value with
    | none => rfl
    | some v => exact absurd (hfound _ (mem_present.mpr ⟨name, rfl, hf⟩)) (by simp)
  | some g =>
    obtain ⟨key, v⟩ := g
    obtain ⟨name', rfl, hg⟩ := mem_present.mp (List.mem_of_find?_eq_some hfound)
    obtain rfl : name' = name := by simpa using List.find?_some hfound
    have hsame := List.inj_on_of_nodup_map hd hg hf rfl
    exact congrArg Prod.snd hsame

theorem record?_ofFields {fields : List (String × Option Json)}
    (hd : (fields.map Prod.fst).Nodup) :
    (ofFields fields).record? (fields.map Prod.fst) = some (fields.map Prod.snd) := by
  have hkeys : (present fields).mapM Prod.fst =
      some ((fields.filter (·.2.isSome)).map Prod.fst) := by
    rw [mapM_eq_some_iff, List.map_map]
    induction fields with
    | nil => rfl
    | cons f fields ih =>
      obtain ⟨name, value⟩ := f
      have ih := ih (List.nodup_cons.mp hd).2
      cases value with
      | none => simpa [present] using ih
      | some v => simpa [present] using ih
  have hcount : ((fields.map Prod.fst).all fun name =>
      ((fields.filter (·.2.isSome)).map Prod.fst).count name ≤ 1) = true := by
    have hsub := hd.sublist ((List.filter_sublist (p := (·.2.isSome)) (l := fields)).map Prod.fst)
    exact List.all_eq_true.mpr fun name _ => by simpa using List.nodup_iff_count.mp hsub name
  unfold ofFields record?
  change (present fields).mapM Prod.fst >>= _ = _
  rw [hkeys]
  simp only [Option.bind_eq_bind, Option.bind_some]
  rw [if_pos hcount, List.map_map]
  exact congrArg some (List.map_congr_left fun f hf => find?_present hd hf)

/-! ### Lists and fields that may be absent -/

theorem toList?_map {α : Type} {read : Json → Option α} {write : α → Json} {xs : List α}
    (h : ∀ x ∈ xs, read (write x) = some x) : (Json.array (xs.map write)).toList? read = some xs := by
  rw [toList?, mapM_eq_some_iff, List.map_map]
  exact List.map_congr_left h

theorem of_toList? {α : Type} {read : Json → Option α} {v : Json} {xs : List α}
    (h : v.toList? read = some xs) {x : α} (hx : x ∈ xs) : ∃ w, read w = some x := by
  unfold toList? at h
  split at h
  · next elements =>
    have hmem : some x ∈ elements.map read := by
      rw [mapM_eq_some_iff.mp h]
      exact List.mem_map_of_mem hx
    obtain ⟨w, -, hw⟩ := List.mem_map.mp hmem
    exact ⟨w, hw⟩
  · cases h

/-- A field that may be absent comes back, unless its values are written as `null`. -/
theorem fieldOr_map {α : Type} {read : Json → Option α} {write : α → Json} {x : Option α}
    (h : ∀ a, x = some a → read (write a) = some a) (hnull : ∀ a, write a ≠ .null) :
    fieldOr none (toOption? read) (x.map write) = some x := by
  cases x with
  | none => rfl
  | some a =>
    rw [Option.map_some, fieldOr, toOption?]
    · rw [h a rfl, Option.map_some]
    · exact hnull a

theorem of_fieldOr {α : Type} {read : Json → Option α} {field : Option Json} {a : α}
    (h : fieldOr none (toOption? read) field = some (some a)) : ∃ v, read v = some a := by
  cases field with
  | none => cases h
  | some v =>
    rw [fieldOr] at h
    unfold toOption? at h
    split at h
    · cases h
    · exact ⟨v, by simpa using h⟩

theorem toText?_ofString (s : String) : (ofString s).toText? = some s := rfl

theorem toList?_ofStrings (ss : List String) : (ofStrings ss).toList? toText? = some ss :=
  toList?_map fun s _ => toText?_ofString s

theorem fieldOr_text (x : Option String) :
    fieldOr none (toOption? toText?) (x.map ofString) = some x :=
  fieldOr_map (fun s _ => toText?_ofString s) (by simp [ofString])

/-! ### Records and lists that can be read -/

theorem readable_ofFields {fields : List (String × Option Json)}
    (h : ∀ f ∈ fields, ∀ v, f.2 = some v → Readable v) : Readable (ofFields fields) := by
  refine .object (fun (key, v) hg => ?_) fun (key, v) hg => ?_
  · obtain ⟨name, rfl, -⟩ := mem_present.mp hg
    rfl
  · obtain ⟨name, -, hf⟩ := mem_present.mp hg
    exact h _ hf v rfl

theorem readable_array {α : Type} {write : α → Json} {xs : List α}
    (h : ∀ x ∈ xs, Readable (write x)) : Readable (.array (xs.map write)) := by
  refine .array fun v hv => ?_
  obtain ⟨x, hx, rfl⟩ := List.mem_map.mp hv
  exact h x hx

theorem readable_ofStrings (ss : List String) : Readable (ofStrings ss) :=
  readable_array fun s _ => .string s

theorem readable_ofFloats {xs : List Float} (h : ∀ x ∈ xs, x.isFinite = true) :
    Readable (.array (xs.map ofFloat)) :=
  readable_array fun x hx => .number (isNumber_format (h x hx))

end ChartText.Json
