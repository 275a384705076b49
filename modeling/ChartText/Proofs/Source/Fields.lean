import ChartText.Proofs.Number.Characters
import ChartText.Proofs.Source.Values
import ChartText.Proofs.Text.Padding
import ChartText.Proofs.Text.Slices

/-! # Fields of several values

`Joined` says how a field is put together from tokens: a wide comma, or a comma and a blank, between
every two of them, and blanks wherever there is room. Such a field is cut where it was joined, and a
field that is cut was joined from its pieces (`splitValues_joined`). Both directions go through
`Cut`, which follows the scan for separators. -/

namespace ChartText.Source
open Text

/-! ### The scan for separators -/

@[simp] theorem withNext_nil : withNext [] = [] := rfl

theorem withNext_cons (c : Char) (s : List Char) :
    withNext (c :: s) = (c, s.head?) :: withNext s := by
  cases s <;> simp [withNext]

@[simp] theorem map_fst_withNext (s : List Char) : (withNext s).map Prod.fst = s := by
  induction s with
  | nil => rfl
  | cons c s ih => rw [withNext_cons, List.map_cons, ih]

theorem isSeparator_eq_false {c : Char} {next : Option Char} (hc : c ≠ ',') (hw : c ≠ wideComma) :
    isSeparator (c, next) = false := by
  simp [isSeparator, hc, hw]

theorem isSeparator_of_isBlank {c : Char} (hc : isBlank c = true) (next : Option Char) :
    isSeparator (c, next) = false :=
  isSeparator_eq_false (by rintro rfl; exact absurd hc (by decide))
    (by rintro rfl; exact absurd hc (by decide))

/-- The pieces between the separators, with the blanks around them. -/
def rawFields (s : List Char) : List (List Char) :=
  (cutAt isSeparator (withNext s)).map (List.map Prod.fst)

theorem cutFields_eq_map_trim (s : List Char) : cutFields s = (rawFields s).map trim := by
  rw [cutFields, rawFields, List.map_map]
  rfl

theorem rawFields_cons (c : Char) (s : List Char) :
    rawFields (c :: s) =
      if isSeparator (c, s.head?) then [] :: rawFields s
      else (rawFields s).modifyHead (c :: ·) := by
  rw [rawFields, withNext_cons, cutAt_cons]
  split
  · rfl
  · obtain ⟨first, rest, h⟩ := List.exists_cons_of_ne_nil (cutAt_ne_nil isSeparator (withNext s))
    rw [rawFields, h]
    rfl

/-- There is no separator in the first text when the second one follows it. -/
def IsUncut : List Char → List Char → Prop
  | [], _ => True
  | c :: s, t => isSeparator (c, (s ++ t).head?) = false ∧ IsUncut s t

theorem isUncut_append_iff {s t u : List Char} :
    IsUncut (s ++ t) u ↔ IsUncut s (t ++ u) ∧ IsUncut t u := by
  induction s with
  | nil => exact (true_and _).symm ▸ Iff.rfl
  | cons c s ih => rw [List.cons_append, IsUncut, IsUncut, ih, List.append_assoc, and_assoc]

theorem isUncut_of_blank {s : List Char} (hs : ∀ c ∈ s, isBlank c = true) (t : List Char) :
    IsUncut s t := by
  induction s with
  | nil => trivial
  | cons c s ih =>
    obtain ⟨hc, hs⟩ := List.forall_mem_cons.mp hs
    exact ⟨isSeparator_of_isBlank hc _, ih hs⟩

/-- The pieces of a text, from its first separator to its last one. -/
inductive Cut : List Char → List (List Char) → Prop
  | last {s : List Char} (uncut : IsUncut s []) : Cut s [s]
  | cons {piece rest : List Char} {c : Char} {pieces : List (List Char)}
      (uncut : IsUncut piece (c :: rest)) (separator : isSeparator (c, rest.head?) = true)
      (cut : Cut rest pieces) : Cut (piece ++ c :: rest) (piece :: pieces)

theorem cut_rawFields (s : List Char) : Cut s (rawFields s) := by
  induction s with
  | nil => exact .last trivial
  | cons c s ih =>
    rw [rawFields_cons]
    split
    · next hc => exact @Cut.cons [] s c _ trivial hc ih
    · next hc =>
      rw [Bool.not_eq_true] at hc
      generalize rawFields s = pieces at ih
      cases ih with
      | last uncut => exact .last ⟨by rwa [List.append_nil], uncut⟩
      | @cons piece rest d pieces uncut separator cut =>
        exact @Cut.cons (c :: piece) rest d pieces ⟨hc, uncut⟩ separator cut

theorem rawFields_append {s t : List Char} (hs : IsUncut s t) :
    rawFields (s ++ t) = (rawFields t).modifyHead (s ++ ·) := by
  induction s with
  | nil => exact (List.modifyHead_id ▸ rfl)
  | cons c s ih =>
    obtain ⟨hc, hs⟩ := hs
    rw [List.cons_append, rawFields_cons, hc, ih hs, if_neg Bool.false_ne_true,
      List.modifyHead_modifyHead]
    rfl

theorem Cut.rawFields_eq {s : List Char} {pieces : List (List Char)} (h : Cut s pieces) :
    rawFields s = pieces := by
  induction h with
  | @last s uncut =>
    have := rawFields_append uncut
    rw [List.append_nil] at this
    rw [this]
    simp [rawFields]
  | cons uncut separator _ ih =>
    rw [rawFields_append uncut, rawFields_cons, if_pos separator, ih, List.modifyHead_cons,
      List.append_nil]

theorem Cut.isUncut {s piece : List Char} {pieces : List (List Char)} (h : Cut s pieces)
    (hp : piece ∈ pieces) : ∃ t, IsUncut piece t := by
  induction h with
  | last uncut =>
    rw [List.mem_singleton] at hp
    exact ⟨[], hp ▸ uncut⟩
  | cons uncut _ _ ih =>
    rcases List.mem_cons.mp hp with rfl | hp
    · exact ⟨_, uncut⟩
    · exact ih hp

/-! ### Blanks around a field -/

/-- A comma is a separator before blanks as it is at the end. -/
theorem isUncut_of_append_blank {s t after : List Char} (hs : IsUncut s t)
    (hafter : ∀ c ∈ after, isBlank c = true) : IsUncut s (t ++ after) := by
  induction s with
  | nil => trivial
  | cons c s ih =>
    obtain ⟨hc, hs⟩ := hs
    refine ⟨?_, ih hs⟩
    rw [← List.append_assoc]
    generalize s ++ t = u at hc
    cases u with
    | cons d u => exact hc
    | nil =>
      cases after with
      | nil => exact hc
      | cons d after => simpa [isSeparator, hafter d List.mem_cons_self] using hc

theorem Cut.append_blank {s after : List Char} {pieces : List (List Char)} (h : Cut s pieces)
    (hafter : ∀ c ∈ after, isBlank c = true) :
    ∃ pieces', Cut (s ++ after) pieces' ∧ pieces'.map trim = pieces.map trim := by
  induction h with
  | @last s uncut =>
    refine ⟨[s ++ after], .last ?_, ?_⟩
    · have := isUncut_of_append_blank uncut hafter
      exact isUncut_append_iff.mpr ⟨by rwa [List.append_nil], isUncut_of_blank hafter []⟩
    · exact congrArg (List.cons · []) (IsPadded.trim_eq ⟨[], after, nofun, hafter, rfl⟩)
  | @cons piece rest c pieces uncut separator _ ih =>
    obtain ⟨pieces', hcut, htrim⟩ := ih
    refine ⟨piece :: pieces', ?_, by rw [List.map_cons, htrim, List.map_cons]⟩
    rw [List.append_assoc]
    refine .cons (isUncut_of_append_blank uncut hafter) ?_ hcut
    cases rest with
    | cons d rest => exact separator
    | nil =>
      cases after with
      | nil => exact separator
      | cons d after => simpa [isSeparator, hafter d List.mem_cons_self] using separator

theorem cutFields_of_isPadded {text field : List Char} (h : IsPadded text field) :
    cutFields field = cutFields text := by
  obtain ⟨before, after, hbefore, hafter, rfl⟩ := h
  obtain ⟨pieces, hcut, htrim⟩ := (cut_rawFields text).append_blank hafter
  rw [cutFields_eq_map_trim, cutFields_eq_map_trim, ← htrim, List.append_assoc,
    rawFields_append (isUncut_of_blank hbefore _), hcut.rawFields_eq]
  cases pieces with
  | nil => rfl
  | cons piece pieces =>
    have htrim : trim (before ++ piece) = trim piece :=
      IsPadded.trim_eq ⟨before, [], hbefore, nofun, by rw [List.append_nil]⟩
    rw [List.modifyHead_cons, List.map_cons, htrim, List.map_cons]

/-! ### Joined fields -/

/-- A number that can be told apart from what it is joined with: what follows a comma in it is not
blank. -/
structure IsPiece (token : List Char) : Prop where
  isTrimmed : IsTrimmed token
  isNumber : isNumber token = true
  comma : ∀ front back, token = front ++ ',' :: back →
    ∃ c, back.head? = some c ∧ isBlank c = false

/-- The character stands for a cut between what is before it and the text behind it. -/
def Delimits (delimiter : Char) (rest : List Char) : Prop :=
  delimiter = wideComma ∨ delimiter = ',' ∧ ∃ c, rest.head? = some c ∧ isBlank c = true

/-- The field holds the tokens with a delimiter between every two of them. There may be blanks
around the delimiters, and before the first token and after the last one. -/
inductive Joined : List (List Char) → List Char → Prop
  | single {token field : List Char} (padded : IsPadded token field) : Joined [token] field
  | cons {token field rest : List Char} {tokens : List (List Char)} {delimiter : Char}
      (padded : IsPadded token field) (delimits : Delimits delimiter rest)
      (joined : Joined tokens rest) : Joined (token :: tokens) (field ++ delimiter :: rest)

theorem Joined.length_pos {tokens : List (List Char)} {field : List Char} (h : Joined tokens field) :
    0 < tokens.length := by
  cases h <;> exact Nat.succ_pos _

theorem Joined.cons_blank {tokens : List (List Char)} {field : List Char} {c : Char}
    (h : Joined tokens field) (hc : isBlank c = true) : Joined tokens (c :: field) := by
  cases h with
  | single padded => exact .single (padded.cons_blank hc)
  | cons padded delimits joined => exact .cons (padded.cons_blank hc) delimits joined

theorem Delimits.isSeparator {delimiter : Char} {rest : List Char} (h : Delimits delimiter rest) :
    isSeparator (delimiter, rest.head?) = true := by
  rcases h with rfl | ⟨rfl, c, hc, hblank⟩
  · rfl
  · simp [Source.isSeparator, hc, hblank]

namespace IsPiece
variable {token : List Char}

theorem isUncut (h : IsPiece token) (t : List Char) : IsUncut token t := by
  obtain ⟨-, hnumber, hcomma⟩ := h
  have hwide := wideComma_notMem_of_isNumber hnumber
  clear hnumber
  induction token with
  | nil => trivial
  | cons c s ih =>
    refine ⟨?_, ih (fun front back hs => hcomma (c :: front) back (congrArg (c :: ·) hs))
      fun hmem => hwide (List.mem_cons_of_mem c hmem)⟩
    have hc : c ≠ wideComma := fun hc => hwide (hc ▸ List.mem_cons_self)
    by_cases hc' : c = ','
    · obtain ⟨d, hd, hblank⟩ := hcomma [] s (by rw [hc', List.nil_append])
      obtain ⟨rest, rfl⟩ := List.head?_eq_some_iff.mp hd
      simp [isSeparator, hc, hblank]
    · exact isSeparator_eq_false hc' hc

theorem isUncut_of_isPadded {field : List Char} (h : IsPiece token) (hf : IsPadded token field)
    (t : List Char) : IsUncut field t := by
  obtain ⟨before, after, hbefore, hafter, rfl⟩ := hf
  rw [isUncut_append_iff, isUncut_append_iff]
  exact ⟨⟨isUncut_of_blank hbefore _, h.isUncut _⟩, isUncut_of_blank hafter t⟩

theorem trim_of_isPadded {field : List Char} (h : IsPiece token) (hf : IsPadded token field) :
    trim field = token :=
  hf.trim_eq.trans h.isTrimmed.trim_eq

end IsPiece

theorem cutFields_of_joined {tokens : List (List Char)} {field : List Char}
    (h : Joined tokens field) (ht : ∀ t ∈ tokens, IsPiece t) : cutFields field = tokens := by
  rw [cutFields_eq_map_trim]
  induction h with
  | single padded =>
    have htoken := ht _ List.mem_cons_self
    rw [(Cut.last (htoken.isUncut_of_isPadded padded [])).rawFields_eq, List.map_singleton,
      htoken.trim_of_isPadded padded]
  | @cons token field rest tokens delimiter padded delimits _ ih =>
    obtain ⟨htoken, ht⟩ := List.forall_mem_cons.mp ht
    have hcut : Cut (field ++ delimiter :: rest) (field :: rawFields rest) :=
      .cons (htoken.isUncut_of_isPadded padded _) delimits.isSeparator (cut_rawFields rest)
    rw [hcut.rawFields_eq, List.map_cons, htoken.trim_of_isPadded padded, ih ht]

theorem splitValues_of_joined {tokens : List (List Char)} {field : List Char}
    (h : Joined tokens field) (ht : ∀ t ∈ tokens, IsPiece t) : splitValues field = tokens := by
  have hcut : cutFields (trim field) = tokens := by
    rw [← cutFields_of_isPadded (isPadded_trim field), cutFields_of_joined h ht]
  have hall : tokens.all isNumber = true := List.all_eq_true.mpr fun t hm => (ht t hm).isNumber
  unfold splitValues
  dsimp only
  rw [hcut, hall, Bool.and_true]
  split
  · rfl
  · next hfew =>
    cases h with
    | single padded => rw [(ht _ List.mem_cons_self).trim_of_isPadded padded]
    | cons _ _ joined =>
      exact absurd (decide_eq_true (Nat.succ_lt_succ joined.length_pos)) hfew

/-! ### Fields that are cut -/

/-- A text was joined from its pieces, if these are numbers. After a comma at the end of a text there
would be a piece of nothing. -/
theorem Cut.joined {s : List Char} {pieces : List (List Char)} (h : Cut s pieces)
    (hall : ∀ piece ∈ pieces, isNumber (trim piece) = true) : Joined (pieces.map trim) s := by
  induction h with
  | last => exact .single (isPadded_trim _)
  | @cons piece rest c pieces _ separator cut ih =>
    obtain ⟨-, hall⟩ := List.forall_mem_cons.mp hall
    refine .cons (isPadded_trim piece) ?_ (ih hall)
    cases rest with
    | nil =>
      obtain rfl : pieces = [[]] := cut.rawFields_eq.symm
      exact absurd (hall [] List.mem_cons_self) (by decide)
    | cons d rest =>
      simp only [isSeparator, List.head?_cons, Option.all_some, Bool.or_eq_true, beq_iff_eq,
        Bool.and_eq_true] at separator
      rcases separator with hwide | ⟨hcomma, hblank⟩
      · exact .inl hwide
      · exact .inr ⟨hcomma, d, rfl, hblank⟩

theorem splitValues_eq_cutFields {field : List Char} (hmany : 2 ≤ (splitValues field).length) :
    splitValues field = cutFields (trim field) ∧
      ∀ piece ∈ splitValues field, isNumber piece = true := by
  unfold splitValues at hmany ⊢
  dsimp only at hmany ⊢
  split at hmany
  · next h =>
    rw [if_pos h]
    simp only [Bool.and_eq_true, List.all_eq_true] at h
    exact ⟨rfl, h.2⟩
  · simp at hmany

theorem joined_splitValues {field : List Char} (hmany : 2 ≤ (splitValues field).length) :
    Joined (splitValues field) (trim field) := by
  obtain ⟨hcut, hall⟩ := splitValues_eq_cutFields hmany
  rw [hcut, cutFields_eq_map_trim] at hall ⊢
  exact (cut_rawFields _).joined fun piece hp => hall _ (List.mem_map_of_mem hp)

theorem splitValues_of_mem {field piece : List Char} (h : piece ∈ splitValues field) :
    splitValues piece = [piece] := by
  rcases splitValues_cases field with hone | ⟨hmany, -⟩
  · rw [hone, List.mem_singleton] at h
    subst h
    have : splitValues (trim field) = splitValues field := by
      unfold splitValues
      rw [trim_trim]
    rw [this, hone]
  · obtain ⟨hcut, hall⟩ := splitValues_eq_cutFields hmany
    have hnumber := hall piece h
    rw [hcut, cutFields_eq_map_trim] at h
    obtain ⟨raw, hraw, rfl⟩ := List.mem_map.mp h
    rcases splitValues_cases (trim raw) with hone | ⟨hmany', -⟩
    · rw [hone, trim_trim]
    · -- There would be a delimiter in the piece, and so a separator where the field was not cut.
      exfalso
      obtain ⟨t, huncut⟩ := (cut_rawFields _).isUncut hraw
      obtain ⟨before, after, -, -, hpadded⟩ := isPadded_trim raw
      have hjoined := joined_splitValues hmany'
      rw [trim_trim] at hjoined
      generalize trim raw = piece at *
      generalize splitValues piece = tokens at *
      cases hjoined with
      | single => simp at hmany'
      | @cons token field' rest tokens delimiter padded delimits joined =>
        rw [hpadded] at huncut
        have hsome := (isUncut_append_iff.mp (isUncut_append_iff.mp huncut).1).2
        have hdelimiter := (isUncut_append_iff.mp hsome).2.1
        rcases delimits with rfl | ⟨rfl, c, hc, hblank⟩
        · exact wideComma_notMem_of_isNumber hnumber (by simp)
        · obtain ⟨rest, rfl⟩ := List.head?_eq_some_iff.mp hc
          simp [isSeparator, hblank] at hdelimiter

theorem isTrimmed_of_mem_splitValues {field piece : List Char} (h : piece ∈ splitValues field) :
    IsTrimmed piece := by
  have hself := splitValues_of_mem h
  rcases splitValues_cases piece with hone | ⟨hmany, -⟩
  · rw [hself, List.cons.injEq] at hone
    exact hone.1 ▸ isTrimmed_trim piece
  · simp [hself] at hmany

theorem Joined.infix_of_mem {tokens : List (List Char)} {field token : List Char}
    (h : Joined tokens field) (ht : token ∈ tokens) : token <:+: field := by
  have hpadded : ∀ {t f : List Char}, IsPadded t f → t <:+: f := by
    rintro t f ⟨before, after, -, -, rfl⟩
    exact ⟨before, after, rfl⟩
  induction h with
  | single padded =>
    obtain rfl := List.mem_singleton.mp ht
    exact hpadded padded
  | @cons t field rest tokens delimiter padded _ _ ih =>
    rcases List.mem_cons.mp ht with rfl | ht
    · exact (hpadded padded).trans (List.prefix_append _ _).isInfix
    · exact (ih ht).trans ⟨field ++ [delimiter], [], by simp⟩

theorem infix_of_mem_splitValues {field piece : List Char} (h : piece ∈ splitValues field) :
    piece <:+: field := by
  rcases splitValues_cases field with hone | ⟨hmany, -⟩
  · rw [hone, List.mem_singleton] at h
    exact h ▸ trim_infix_self field
  · exact ((joined_splitValues hmany).infix_of_mem h).trans (trim_infix_self field)

/-! ### Where the pieces are -/

/-- Where the pieces of the rest of a text are, in bytes. The scan is at byte `position`, and the
piece that it goes through begins at byte `start`. -/
def pieceSpans (start position : Nat) : List Char → List (Nat × Nat)
  | [] => [(start, position)]
  | c :: s =>
    let next := position + c.utf8Size
    if isSeparator (c, s.head?) then (start, position) :: pieceSpans next next s
    else pieceSpans start next s

theorem modifyHead_nil_append (pieces : List (List Char)) :
    pieces.modifyHead ([] ++ ·) = pieces := by
  cases pieces <;> rfl

theorem map_slice?_pieceSpans {text front piece rest : List Char}
    (h : text = front ++ piece ++ rest) :
    (pieceSpans (byteLength front) (byteLength (front ++ piece)) rest).map
        (fun span => slice? text span.1 span.2) =
      ((rawFields rest).modifyHead (piece ++ ·)).map some := by
  have hpart : slice? text (byteLength front) (byteLength (front ++ piece)) = some piece :=
    slice?_eq_some_iff.mpr ⟨front, rest, h, rfl, rfl⟩
  induction rest generalizing front piece with
  | nil =>
    rw [pieceSpans, List.map_singleton, hpart]
    simp [rawFields]
  | cons c s ih =>
    have hnext : byteLength (front ++ piece) + c.utf8Size = byteLength (front ++ (piece ++ [c])) := by
      simp [Nat.add_assoc]
    rw [pieceSpans, rawFields_cons]
    split
    · have htext : text = front ++ (piece ++ [c]) ++ [] ++ s := by simp [h]
      have hrest := ih htext (slice?_eq_some_iff.mpr ⟨_, s, htext, rfl, rfl⟩)
      rw [List.append_nil, ← hnext] at hrest
      rw [List.map_cons, hpart, hrest, modifyHead_nil_append, List.modifyHead_cons,
        List.append_nil, List.map_cons]
    · have htext : text = front ++ (piece ++ [c]) ++ s := by simp [h]
      rw [hnext, ih htext (slice?_eq_some_iff.mpr ⟨_, s, htext, rfl, rfl⟩),
        List.modifyHead_modifyHead]
      simp [Function.comp_def]

/-- Every cut is between two characters. -/
theorem slice?_pieceSpans (s : List Char) :
    (pieceSpans 0 0 s).map (fun span => (slice? s span.1 span.2).map trim) =
      (cutFields s).map some := by
  have hspans : (pieceSpans 0 0 s).map (fun span => slice? s span.1 span.2) =
      (rawFields s).map some := by
    rw [← modifyHead_nil_append (rawFields s)]
    exact @map_slice?_pieceSpans s [] [] s rfl
  have htrim := congrArg (List.map (Option.map trim)) hspans
  rw [List.map_map, List.map_map] at htrim
  rw [cutFields_eq_map_trim, List.map_map]
  exact htrim

/-! ### Joining and cutting -/

/-- Tokens come back from the field that they were joined into, whatever the delimiters and however
many blanks there are. The pieces of a field that is cut are numbers, and joined they are the field
without the blanks around it. The bytes at which it is cut are ends of characters. -/
theorem splitValues_joined :
    (∀ tokens field, Joined tokens field → (∀ t ∈ tokens, IsPiece t) →
      splitValues field = tokens) ∧
    (∀ field, 2 ≤ (splitValues field).length →
      (∀ piece ∈ splitValues field, isNumber piece = true) ∧
      Joined (splitValues field) (trim field)) ∧
    ∀ field, (pieceSpans 0 0 (trim field)).map
        (fun span => (slice? (trim field) span.1 span.2).map trim) =
      (cutFields (trim field)).map some :=
  ⟨fun _ _ => splitValues_of_joined,
    fun _ hmany => ⟨(splitValues_eq_cutFields hmany).2, joined_splitValues hmany⟩,
    fun field => slice?_pieceSpans (trim field)⟩

/-- Both delimiters at once, with commas at the start of a token and inside one. -/
theorem splitValues_joined_prices :
    splitValues "  ,5 , $1,200 ，3 ".toList = [",5".toList, "$1,200".toList, "3".toList] := by
  have hjoined : Joined [",5".toList, "$1,200".toList, "3".toList] "  ,5 , $1,200 ，3 ".toList := by
    show Joined _ ("  ,5 ".toList ++ ',' :: (" $1,200 ".toList ++ '，' :: "3 ".toList))
    refine .cons ⟨[' ', ' '], [' '], ?_, ?_, rfl⟩ (.inr ⟨rfl, ' ', rfl, rfl⟩)
      (.cons ⟨[' '], [' '], ?_, ?_, rfl⟩ (.inl rfl) (.single ⟨[], [' '], ?_, ?_, rfl⟩)) <;>
      exact List.all_eq_true.mp rfl
  refine splitValues_joined.1 _ _ hjoined fun token htoken => ?_
  have hall : ∀ t ∈ [",5".toList, "$1,200".toList, "3".toList],
      trim t = t ∧ isNumber t = true ∧
        ∀ i < t.length, t[i]? = some ',' → t[i + 1]?.any (!isBlank ·) = true := by
    decide +kernel
  obtain ⟨htrim, hnumber, hnext⟩ := hall token htoken
  refine ⟨htrim ▸ isTrimmed_trim token, hnumber, fun front back hcomma => ?_⟩
  have hany := hnext front.length (by simp [hcomma]) (by simp [hcomma])
  rw [hcomma, List.getElem?_append_right (Nat.le_add_right _ 1), Nat.add_sub_cancel_left,
    List.getElem?_cons_succ, ← List.head?_eq_getElem?, Option.any_eq_true] at hany
  simpa using hany

end ChartText.Source
