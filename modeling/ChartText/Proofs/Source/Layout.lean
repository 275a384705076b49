import ChartText.Proofs.Source.Joined
import ChartText.Proofs.Source.Lines
import ChartText.Proofs.Text.Padding
import Mathlib.Data.List.Forall2
import Mathlib.Data.List.TakeWhile

/-! # The layout of a document

Blanks at the ends of lines and lines that say nothing have no part in a document. Every line is
trimmed before it is read, a line that is ignored is missed in neither section
(`parseLines_filter`), and the number of a line appears in its diagnostic only
(`parseLines_renumber`). So a document that is laid out in another way gives the same chart, or the
same diagnostics of lines that have moved (`parse_layout`). -/

namespace ChartText.Text

/-- The lines differ only in the blanks around a common text. -/
def SameText (line line' : List Char) : Prop :=
  ∃ text, IsPadded text line ∧ IsPadded text line'

theorem SameText.refl (line : List Char) : SameText line line :=
  ⟨line, .refl line, .refl line⟩

theorem SameText.trim_eq {line line' : List Char} (h : SameText line line') :
    trim line = trim line' := by
  obtain ⟨text, hline, hline'⟩ := h
  rw [hline.trim_eq, hline'.trim_eq]

/-- The text with a carriage return before every line feed. -/
def withCarriageReturns (s : List Char) : List Char :=
  s.flatMap fun c => if c == '\n' then ['\r', '\n'] else [c]

theorem cutLines_withCarriageReturns (s : List Char) :
    List.Forall₂ (fun line line' => line' = line ∨ line' = line ++ ['\r'])
      (cutLines s) (cutLines (withCarriageReturns s)) := by
  induction s with
  | nil => exact .cons (.inl rfl) .nil
  | cons c s ih =>
    unfold cutLines at ih ⊢
    by_cases hc : c = '\n'
    · subst hc
      have hline : withCarriageReturns ('\n' :: s) = '\r' :: '\n' :: withCarriageReturns s := rfl
      rw [hline, cutAt_cons, cutAt_cons, cutAt_cons]
      exact .cons (.inr rfl) ih
    · have hline : withCarriageReturns (c :: s) = c :: withCarriageReturns s := by
        simp [withCarriageReturns, hc]
      have hcut : ¬ (c == '\n') = true := by simpa using hc
      rw [hline, cutAt_cons, cutAt_cons, if_neg hcut, if_neg hcut]
      generalize cutAt (· == '\n') s = lines, cutAt (· == '\n') (withCarriageReturns s) = lines'
        at ih ⊢
      cases ih with
      | nil => exact .nil
      | cons hfirst hrest =>
        refine .cons ?_ hrest
        rcases hfirst with rfl | rfl
        · exact .inl rfl
        · exact .inr rfl

end ChartText.Text

namespace ChartText

/-- The diagnostic of a line that has moved. -/
def Diagnostic.renumber (f : Nat → Nat) (d : Diagnostic) : Diagnostic :=
  { d with line := f d.line }

namespace Source
open Text

variable {v : Vocabulary}

/-! ### Lines that say nothing -/

/-- The line is an entry, or at fault. -/
def NumberedLine.isRead (l : NumberedLine) : Bool :=
  match l.line with
  | .ignored => false
  | _ => true

theorem NumberedLine.line_eq_ignored {l : NumberedLine} (h : l.isRead = false) :
    l.line = .ignored := by
  unfold isRead at h
  split at h
  · assumption
  · cases h

theorem isRead_of_startsData {l : NumberedLine} (h : l.isRead = false) :
    startsData v l = false := by
  rw [startsData, NumberedLine.line_eq_ignored h]

theorem headerLines_filter (lines : List NumberedLine) :
    headerLines v (lines.filter (·.isRead)) = (headerLines v lines).filter (·.isRead) := by
  unfold headerLines
  rw [List.takeWhile_filter]
  congr 2
  funext l
  cases h : l.isRead with
  | true => rfl
  | false => simp [isRead_of_startsData h]

theorem dataLines_filter (lines : List NumberedLine) :
    dataLines v (lines.filter (·.isRead)) = (dataLines v lines).filter (·.isRead) := by
  unfold dataLines
  rw [List.dropWhile_filter]
  congr 2
  funext l
  cases h : l.isRead with
  | true => rfl
  | false => simp [isRead_of_startsData h]

theorem filterMap_filter_isRead {β : Type} {f : NumberedLine → Option β}
    (hf : ∀ l, l.line = .ignored → f l = none) (lines : List NumberedLine) :
    (lines.filter (·.isRead)).filterMap f = lines.filterMap f := by
  rw [List.filterMap_filter]
  refine List.filterMap_congr fun l _ => ?_
  cases h : l.isRead with
  | true => rfl
  | false => rw [hf l (NumberedLine.line_eq_ignored h)]; rfl

theorem lineDiagnostics_filter (lines : List NumberedLine) :
    lineDiagnostics v (lines.filter (·.isRead)) = lineDiagnostics v lines := by
  unfold lineDiagnostics
  rw [headerLines_filter, dataLines_filter, filterMap_filter_isRead, filterMap_filter_isRead]
  · intro l hl
    rw [hl]
    rfl
  · intro l hl
    rw [hl]
    rfl

theorem rowsOf_filter (lines : List NumberedLine) :
    rowsOf (lines.filter (·.isRead)) = rowsOf lines := by
  refine filterMap_filter_isRead (fun l hl => ?_) lines
  rw [hl]
  rfl

theorem ofLines_filter (lines : List NumberedLine) :
    Header.ofLines v (lines.filter (·.isRead)) = Header.ofLines v lines := by
  unfold Header.ofLines
  rw [List.foldl_filter]
  congr 1
  funext header l
  cases h : l.isRead with
  | true => rfl
  | false => rw [Header.step, NumberedLine.line_eq_ignored h]; rfl

/-- A document is read from the lines that are not ignored. -/
theorem parseLines_filter (v : Vocabulary) (lines : List NumberedLine) :
    parseLines v (lines.filter (·.isRead)) = parseLines v lines := by
  unfold parseLines
  rw [lineDiagnostics_filter, headerLines_filter, ofLines_filter, dataLines_filter, rowsOf_filter]

theorem parseLines_insert {l : NumberedLine} (h : l.isRead = false)
    (front back : List NumberedLine) :
    parseLines v (front ++ l :: back) = parseLines v (front ++ back) := by
  rw [← parseLines_filter, List.filter_append, List.filter_cons_of_neg (by simp [h]),
    ← List.filter_append, parseLines_filter]

/-! ### The numbers of the lines -/

def NumberedLine.renumber (f : Nat → Nat) (l : NumberedLine) : NumberedLine :=
  { l with number := f l.number }

section
variable (f : Nat → Nat) (lines : List NumberedLine)

theorem headerLines_renumber :
    headerLines v (lines.map (·.renumber f)) = (headerLines v lines).map (·.renumber f) :=
  List.takeWhile_map

theorem dataLines_renumber :
    dataLines v (lines.map (·.renumber f)) = (dataLines v lines).map (·.renumber f) :=
  List.dropWhile_map

theorem rowsOf_renumber : rowsOf (lines.map (·.renumber f)) = rowsOf lines :=
  List.filterMap_map

theorem ofLines_renumber :
    Header.ofLines v (lines.map (·.renumber f)) = Header.ofLines v lines :=
  List.foldl_map

theorem lineDiagnostics_renumber :
    lineDiagnostics v (lines.map (·.renumber f)) =
      (lineDiagnostics v lines).map (·.renumber f) := by
  unfold lineDiagnostics
  rw [headerLines_renumber, dataLines_renumber, List.map_append, List.map_filterMap,
    List.map_filterMap, List.filterMap_map, List.filterMap_map]
  simp only [Option.map_map]
  rfl

/-- Where the lines stand decides nothing but the numbers of the diagnostics. The diagnostic of the
whole document is at line 0 wherever the lines are. -/
theorem parseLines_renumber (hf : f 0 = 0) :
    parseLines v (lines.map (·.renumber f)) =
      (parseLines v lines).mapError (List.map (·.renumber f)) := by
  unfold parseLines
  rw [lineDiagnostics_renumber, headerLines_renumber, ofLines_renumber, dataLines_renumber,
    rowsOf_renumber]
  dsimp only
  cases lineDiagnostics v lines with
  | nil =>
    cases rowsOf (dataLines v lines) with
    | nil => simp [Except.mapError, Diagnostic.renumber, Fault.ofDocument, hf]
    | cons row rows => rfl
  | cons d ds => rfl

end

theorem numberFrom_succ (n : Nat) (lines : List (List Char)) :
    numberFrom (n + 1) lines = (numberFrom n lines).map (·.renumber (· + 1)) := by
  rw [numberFrom, List.zipIdx_succ, List.map_map, numberFrom, List.map_map]
  rfl

theorem number_of_mem_numberFrom {n : Nat} {lines : List (List Char)} {l : NumberedLine}
    (h : l ∈ numberFrom n lines) : n ≤ l.number ∧ l.number < n + lines.length := by
  obtain ⟨⟨line, number⟩, hmem, rfl⟩ := List.mem_map.mp h
  obtain ⟨hle, hlt, -⟩ := List.mem_zipIdx hmem
  exact ⟨hle, hlt⟩

theorem map_renumber_congr {f g : Nat → Nat} {lines : List NumberedLine}
    (h : ∀ l ∈ lines, f l.number = g l.number) :
    lines.map (·.renumber f) = lines.map (·.renumber g) := by
  refine List.map_congr_left fun l hl => ?_
  rw [NumberedLine.renumber, h l hl, NumberedLine.renumber]

/-- The number of a line once another line has been put in after the first `k` lines. -/
def shifted (k n : Nat) : Nat :=
  if n ≤ k then n else n + 1

theorem numberFrom_insert (k : Nat) (line : List Char) (lines : List (List Char)) :
    numberFrom 1 (lines.take k ++ line :: lines.drop k) =
      (numberFrom 1 (lines.take k)).map (·.renumber (shifted k)) ++
        ⟨1 + (lines.take k).length, trim line⟩ ::
          (numberFrom (1 + (lines.take k).length) (lines.drop k)).map (·.renumber (shifted k)) := by
  have hlength := List.length_take_le k lines
  have hfront : (numberFrom 1 (lines.take k)).map (·.renumber (shifted k)) =
      numberFrom 1 (lines.take k) := by
    have hsame : ∀ l ∈ numberFrom 1 (lines.take k), shifted k l.number = id l.number := by
      intro l hl
      obtain ⟨-, hlt⟩ := number_of_mem_numberFrom hl
      exact if_pos (by omega)
    rw [map_renumber_congr hsame]
    exact List.map_id' _
  have hback : (numberFrom (1 + (lines.take k).length) (lines.drop k)).map
      (·.renumber (shifted k)) = numberFrom (1 + (lines.take k).length + 1) (lines.drop k) := by
    rw [numberFrom_succ]
    refine map_renumber_congr fun l hl => ?_
    obtain ⟨hle, hlt⟩ := number_of_mem_numberFrom hl
    -- there is a line after the first `k`, so these are `k`
    rw [List.length_drop] at hlt
    rw [List.length_take] at hle hlt
    exact if_neg (by omega)
  rw [numberFrom_append, numberFrom_cons, hfront, hback]

/-! ### Documents -/

/-- The document with one more line in front of line `k`, or after its last line. Lines are counted
from 0. -/
def insertLine (k : Nat) (line : List Char) (source : String) : String :=
  let lines := cutLines source.toList
  String.ofList (['\n'].intercalate (lines.take k ++ line :: lines.drop k))

theorem cutLines_insertLine {k : Nat} {line : List Char} (h : '\n' ∉ line) (source : String) :
    cutLines (insertLine k line source).toList =
      (cutLines source.toList).take k ++ line :: (cutLines source.toList).drop k := by
  have hfeed : ∀ l ∈ cutLines source.toList, '\n' ∉ l := by
    intro l hl hmem
    have := (of_mem_cutAt hl hmem).2
    simp at this
  rw [insertLine, String.toList_ofList]
  refine cutLines_intercalate (by simp) fun l hl => ?_
  rcases List.mem_append.mp hl with hl | hl
  · exact hfeed l (List.take_subset _ _ hl)
  · rcases List.mem_cons.mp hl with rfl | hl
    · exact h
    · exact hfeed l (List.drop_subset _ _ hl)

theorem parse_insertLine {k : Nat} {line : List Char} (hline : '\n' ∉ line)
    (hignored : ¬ IsActive line) (v : Vocabulary) (source : String) :
    parse v (insertLine k line source) =
      (parse v source).mapError (List.map (·.renumber (shifted k))) := by
  have hread : NumberedLine.isRead
      ⟨1 + ((cutLines source.toList).take k).length, trim line⟩ = false := by
    rw [NumberedLine.isRead, NumberedLine.line, Line.ofTrimmed_of_not_active hignored]
  rw [parse, numberedLines_eq_numberFrom, cutLines_insertLine hline, numberFrom_insert,
    parseLines_insert hread, ← List.map_append, ← numberFrom_append, List.take_append_drop,
    ← numberedLines_eq_numberFrom, parseLines_renumber _ _ (by simp [shifted]), parse]

theorem parse_sameText {source other : String}
    (h : List.Forall₂ SameText (cutLines source.toList) (cutLines other.toList)) (v : Vocabulary) :
    parse v other = parse v source := by
  have hnumber (n : Nat) {lines lines' : List (List Char)} (h : List.Forall₂ SameText lines lines') :
      numberFrom n lines' = numberFrom n lines := by
    induction h generalizing n with
    | nil => rfl
    | cons hline _ ih => rw [numberFrom_cons, numberFrom_cons, hline.trim_eq, ih]
  rw [parse, numberedLines_eq_numberFrom, hnumber 1 h, ← numberedLines_eq_numberFrom, parse]

/-- The layout of a document does not matter. Blanks may be added to the ends of its lines, or taken
off, and with the other line endings it is the same document. A line that is blank or a comment may
be put in anywhere: the chart stays what it is, and of the diagnostics those of later lines
move on by one. -/
theorem parse_layout (v : Vocabulary) (source : String) :
    (∀ other, List.Forall₂ SameText (cutLines source.toList) (cutLines other.toList) →
      parse v other = parse v source) ∧
    parse v (String.ofList (withCarriageReturns source.toList)) = parse v source ∧
    ∀ k line, '\n' ∉ line → ¬ IsActive line →
      parse v (insertLine k line source) =
        (parse v source).mapError
          (List.map fun d => if d.line ≤ k then d else { d with line := d.line + 1 }) := by
  refine ⟨fun other h => parse_sameText h v, parse_sameText ?_ v, fun k line hline hignored => ?_⟩
  · rw [String.toList_ofList]
    refine (cutLines_withCarriageReturns source.toList).imp fun line line' h => ?_
    rcases h with rfl | rfl
    · exact .refl _
    · exact ⟨line, .refl line, [], ['\r'], nofun, List.all_eq_true.mp (by decide), rfl⟩
  · rw [parse_insertLine hline hignored]
    congr 2
    funext d
    unfold Diagnostic.renumber shifted
    split <;> rfl

/-- Three lines, two of them at fault, with blanks around the first and the second, and with a
comment in front of the second. -/
theorem parse_layout_comment :
    ∃ ds, parse .standard "Foo\nA: 1\nB = 2" = .error ds ∧ ds.map Diagnostic.line = [1, 3] ∧
      parse .standard "  Foo\nA: 1\t\nB = 2" = .error ds ∧
      parse .standard "Foo\n // note: 1\nA: 1\nB = 2" =
        .error (ds.map fun d => if d.line ≤ 1 then d else { d with line := d.line + 1 }) := by
  obtain ⟨hpadded, -, hinsert⟩ := parse_layout .standard "Foo\nA: 1\nB = 2"
  have hparse : ∃ ds, parse .standard "Foo\nA: 1\nB = 2" = .error ds ∧
      ds.map Diagnostic.line = [1, 3] := ⟨_, rfl, by decide +kernel⟩
  obtain ⟨ds, hds, hlines⟩ := hparse
  have hindented : SameText "Foo".toList "  Foo".toList :=
    ⟨_, .refl _, "  ".toList, [], List.all_eq_true.mp (by decide), nofun, rfl⟩
  have htabbed : SameText "A: 1".toList "A: 1\t".toList :=
    ⟨_, .refl _, [], "\t".toList, nofun, List.all_eq_true.mp (by decide), rfl⟩
  refine ⟨ds, hds, hlines, (hpadded _ ?_).trans hds, ?_⟩
  · exact .cons hindented (.cons htabbed (.cons (.refl _) .nil))
  · have hcomment := hinsert 1 " // note: 1".toList (by decide +kernel)
      fun hactive => hactive.not_slashes (by decide +kernel)
    rw [hds] at hcomment
    exact hcomment

end Source
end ChartText
