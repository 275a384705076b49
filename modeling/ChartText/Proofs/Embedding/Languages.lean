import ChartText.Embedding
import ChartText.Proofs.Settings.Discovery
import Mathlib.Data.List.TakeWhile

/-! # Languages of charts

A fenced block is a chart if the first word of its info is one of the languages. So a language that
is a word can be relied on, and valid settings have no language without a word in it. But they may
have one of several words, and of these only the first one counts
(`Settings.isChartInfo_language`). -/

namespace ChartText

namespace Text

/-! ### First words -/

/-- A blank is no letter, so it has no other case. -/
theorem isBlank_toLower (c : Char) : isBlank c.toLower = isBlank c := by
  by_cases hc : c.toNat < 91
  · have hall : ∀ n < 91, isBlank (Char.ofNat n).toLower = isBlank (Char.ofNat n) := by decide
    simpa using hall c.toNat hc
  · have hother : c.toLower = c := dif_neg fun h => hc (Nat.lt_succ_of_le h.2)
    rw [hother]

theorem firstWord?_lower (s : List Char) : firstWord? (lower s) = (firstWord? s).map lower := by
  have hblank : isBlank ∘ Char.toLower = isBlank := funext isBlank_toLower
  have hword : (fun c => !isBlank c) ∘ Char.toLower = fun c => !isBlank c :=
    funext fun c => congrArg (!·) (isBlank_toLower c)
  have htrim : trimStart (lower s) = lower (trimStart s) := by
    rw [trimStart, lower, List.dropWhile_map, hblank, ← trimStart, lower]
  rw [firstWord?, firstWord?, htrim]
  cases trimStart s with
  | nil => rfl
  | cons c cs =>
    simp only [lower, List.map_cons, Option.map_some]
    rw [← List.map_cons, List.takeWhile_map, hword]

theorem firstWord?_append {s rest word : List Char} (h : firstWord? s = some word)
    (hrest : ∀ c, rest.head? = some c → isBlank c = true) : firstWord? (s ++ rest) = some word := by
  have hnone : rest.takeWhile (!isBlank ·) = [] := by
    cases rest with
    | nil => rfl
    | cons c rest => simp [hrest c rfl]
  have htake (t : List Char) :
      (t ++ rest).takeWhile (!isBlank ·) = t.takeWhile (!isBlank ·) := by
    rw [List.takeWhile_append]
    split
    · next hfull => rw [hnone, List.append_nil, (List.takeWhile_prefix _).eq_of_length hfull]
    · rfl
  unfold firstWord? at h
  split at h
  · cases h
  · next c cs hs =>
    have htrim : trimStart (s ++ rest) = c :: cs ++ rest := by
      unfold trimStart at hs ⊢
      rw [List.dropWhile_append, hs]
      rfl
    rw [firstWord?, htrim, ← h, ← htake]
    rfl

theorem firstWord?_eq_self {s : List Char} (hne : s ≠ []) (hs : ∀ c ∈ s, isBlank c = false) :
    firstWord? s = some s := by
  obtain ⟨c, cs, rfl⟩ := List.exists_cons_of_ne_nil hne
  have htrim : trimStart (c :: cs) = c :: cs :=
    trimStart_eq_self fun d hd => hs d (List.mem_of_mem_head? hd)
  rw [firstWord?, htrim]
  exact congrArg some (List.takeWhile_eq_self_iff.mpr fun d hd => by simp [hs d hd])

theorem sameIgnoringCase_iff {s t : List Char} :
    sameIgnoringCase s t = true ↔ lower s = lower t :=
  beq_iff_eq

theorem sameIgnoringCase_firstWord? {s t word : List Char} (h : sameIgnoringCase s t = true)
    (hs : firstWord? s = some word) :
    ∃ word', firstWord? t = some word' ∧ sameIgnoringCase word word' = true := by
  have hlower := congrArg firstWord? (sameIgnoringCase_iff.mp h)
  rw [firstWord?_lower, firstWord?_lower, hs, Option.map_some] at hlower
  obtain ⟨word', ht, hword⟩ := Option.map_eq_some_iff.mp hlower.symm
  exact ⟨word', ht, sameIgnoringCase_iff.mpr hword.symm⟩

end Text

open Text

/-- The info begins with the language, in any case of its letters, and goes on with a blank if it goes
on. -/
def Introduces (language : String) (info : List Char) : Prop :=
  ∃ name rest, sameIgnoringCase language.toList name = true ∧
    (∀ c, rest.head? = some c → isBlank c = true) ∧ info = name ++ rest

namespace EmbeddingSettings
variable {s : EmbeddingSettings}

theorem isChartInfo_of_firstWord? {info word : List Char} (h : firstWord? info = some word) :
    s.isChartInfo info = true ↔
      ∃ language ∈ s.languages, sameIgnoringCase language.toList word = true := by
  rw [isChartInfo, h]
  exact List.any_eq_true

/-- A language counts as much as its first word. -/
theorem isChartInfo_of_introduces {language : String} {info word : List Char}
    (hword : firstWord? language.toList = some word) (h : Introduces language info) :
    s.isChartInfo info = true ↔
      ∃ other ∈ s.languages, sameIgnoringCase other.toList word = true := by
  obtain ⟨name, rest, hname, hrest, rfl⟩ := h
  obtain ⟨word', hword', hsame⟩ := sameIgnoringCase_firstWord? hname hword
  rw [isChartInfo_of_firstWord? (firstWord?_append hword' hrest)]
  simp only [sameIgnoringCase_iff] at hsame ⊢
  rw [hsame]

theorem exists_firstWord? (hs : s.fault? = none) {language : String} (hl : language ∈ s.languages) :
    ∃ word, firstWord? language.toList = some word := by
  have hblank : isBlankText language = false := by
    unfold fault? at hs
    split at hs
    · cases hs
    · split at hs
      · cases hs
      · rw [Option.map_eq_none_iff, List.findIdx?_eq_none_iff] at hs
        exact hs language hl
  have htrim : trimStart language.toList ≠ [] := by
    intro hnil
    rw [trimStart, List.dropWhile_eq_nil_iff] at hnil
    rw [isBlankText, isAllBlank, List.all_eq_true.mpr hnil] at hblank
    cases hblank
  obtain ⟨c, cs, hcons⟩ := List.exists_cons_of_ne_nil htrim
  exact ⟨_, by rw [firstWord?, hcons]⟩

end EmbeddingSettings

namespace Settings

theorem IsValid.embedding {s : Settings} (h : s.IsValid) : s.embedding.fault? = none := by
  unfold IsValid fault? at h
  cases hd : s.drawing.fault? with
  | none => rwa [hd] at h
  | some fault =>
    rw [hd] at h
    cases h

/-- An info that begins with a language of valid settings marks a chart if and only if the first word
of that language is a language. If the language is a word it does. -/
theorem isChartInfo_language {s : Settings} (hs : s.IsValid) {language : String}
    (hl : language ∈ s.embedding.languages) :
    ∃ word, firstWord? language.toList = some word ∧ ∀ info, Introduces language info →
      (s.embedding.isChartInfo info = true ↔
        ∃ other ∈ s.embedding.languages, sameIgnoringCase other.toList word = true) ∧
      ((∀ c ∈ language.toList, isBlank c = false) → s.embedding.isChartInfo info = true) := by
  obtain ⟨word, hword⟩ := EmbeddingSettings.exists_firstWord? hs.embedding hl
  refine ⟨word, hword, fun info h => ?_⟩
  have hiff := EmbeddingSettings.isChartInfo_of_introduces (s := s.embedding) hword h
  refine ⟨hiff, fun hblank => hiff.mpr ⟨language, hl, ?_⟩⟩
  have hne : language.toList ≠ [] := by
    intro hnil
    rw [hnil] at hword
    cases hword
  obtain rfl := Option.some.inj ((firstWord?_eq_self hne hblank).symm.trans hword)
  exact sameIgnoringCase_refl _

/-- A language in other letters, with more words behind it. -/
theorem isChartInfo_language_words :
    ({} : Settings).embedding.isChartInfo "PV\ttitle=\"x\"".toList = true := by
  have h : Introduces "pv" "PV\ttitle=\"x\"".toList := by
    refine ⟨['P', 'V'], '\t' :: "title=\"x\"".toList, by decide, fun c hc => ?_, by decide⟩
    obtain rfl : '\t' = c := Option.some.inj hc
    rfl
  obtain ⟨_, _, hlanguage⟩ := @isChartInfo_language _ isValid_default "pv" (by decide)
  have hblank : "pv".toList.all (!isBlank ·) = true := by decide
  exact (hlanguage _ h).2 (by simpa only [List.all_eq_true, Bool.not_eq_true'] using hblank)

/-- The settings are valid, but an info that is their only language does not mark a chart. -/
theorem isChartInfo_spaced :
    let s : Settings := { embedding := { languages := ["my chart"] } }
    s.IsValid ∧ Introduces "my chart" "my chart".toList ∧
      s.embedding.isChartInfo "my chart".toList = false := by
  refine ⟨by unfold IsValid; decide, ⟨"my chart".toList, [], ?_, nofun, by simp⟩, by decide⟩
  exact sameIgnoringCase_refl _

end Settings
end ChartText
