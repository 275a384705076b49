import ChartText.Proofs.Drawing.Messages
import ChartText.Proofs.Report.Terminal
import ChartText.Proofs.Source.Messages

/-! # Reports with and without colours

A report is written with colours or without, and both say the same. If no text in it has an
escape character, the coloured report shows what the plain one shows, line by line
(`Report.styled_write`). If no text in it has a line feed either, every line of the coloured report
sets attributes for itself alone (`Report.leftSet_of_mem_cutLines`).

A `Notice` is what there is to report. Its texts are told as they are, and its hints line by line;
the rest of its report are fixed texts and numbers, so a control character in the report is one of
those texts (`Notice.lacks_report`). -/

namespace ChartText
open Text

/-! ### Writing spans -/

theorem Emphasis.areParameters (e : Emphasis) :
    ∀ a ∈ e.attributes, Report.AreParameters a.toList := by
  have hall : ∀ a ∈ e.attributes, 'm' ∉ a.toList ∧ '\n' ∉ a.toList := by cases e <;> decide
  exact fun a ha => ⟨(hall a ha).1, (hall a ha).2⟩

namespace Report

theorem toList_sequence (attributes : List String) :
    (sequence attributes).toList = attributes.flatMap fun a => sequenceOf a.toList := by
  simp [sequence, sequenceOf, esc, List.flatMap_map]

section
variable {attributes : List String} (h : ∀ a ∈ attributes, AreParameters a.toList)
include h

theorem styled_sequence : Styled (sequence attributes).toList [] := by
  rw [toList_sequence]
  induction attributes with
  | nil => exact .nil
  | cons a attributes ih =>
    rw [List.forall_mem_cons] at h
    exact .sequence h.1 (ih h.2)

theorem line_feed_notMem_sequence : '\n' ∉ (sequence attributes).toList := by
  rw [toList_sequence, List.mem_flatMap]
  rintro ⟨a, ha, hmem⟩
  have hfeed := (h a ha).no_line_feed
  simp [sequenceOf, esc, hfeed] at hmem

theorem signs_sequence (s : List Char) : signs ((sequence attributes).toList ++ s) =
    attributes.map (fun a => .sequence a.toList) ++ signs s := by
  rw [toList_sequence]
  induction attributes with
  | nil => rfl
  | cons a attributes ih =>
    rw [List.forall_mem_cons] at h
    rw [List.flatMap_cons, List.append_assoc, signs_sequenceOf h.1.no_end, ih h.2]
    rfl

end

theorem areParameters_reset : ∀ a ∈ ["0"], AreParameters a.toList := by
  rw [List.forall_mem_singleton]
  exact ⟨by decide, by decide⟩

end Report

namespace Span
open Report

theorem write_false (s : Span) : s.write false = s.text := rfl

theorem write_true_cases (s : Span) : s.write true = s.text ∨
    s.write true = sequence s.emphasis.attributes ++ s.text ++ sequence ["0"] := by
  unfold write
  split
  · exact .inr rfl
  · exact .inl rfl

variable {s : Span}

theorem styled_write (h : esc ∉ s.text.toList) :
    Styled (s.write true).toList (s.write false).toList := by
  rw [write_false]
  have htext := Styled.of_notMem h
  rcases s.write_true_cases with hw | hw
  · rw [hw]
    exact htext
  · rw [hw, String.toList_append, String.toList_append]
    simpa using ((styled_sequence s.emphasis.areParameters).append htext).append
      (styled_sequence areParameters_reset)

theorem line_feed_notMem_write (h : '\n' ∉ s.text.toList) : '\n' ∉ (s.write true).toList := by
  rcases s.write_true_cases with hw | hw
  · rwa [hw]
  · rw [hw]
    exact notMem_append (notMem_append (line_feed_notMem_sequence s.emphasis.areParameters) h)
      (line_feed_notMem_sequence areParameters_reset)

/-- What a span sets is reset where it ends. -/
theorem leftSet_write_append (h : esc ∉ s.text.toList) (t : List Char) :
    leftSet ((s.write true).toList ++ t) = leftSet t := by
  rcases s.write_true_cases with hw | hw
  · rw [hw, leftSet, signs_append h, List.foldl_append]
    have hshown : ∀ (text : List Char) attributes,
        (text.map Sign.shown).foldl Sign.apply attributes = attributes := by
      intro text attributes
      induction text with
      | nil => rfl
      | cons c text ih => exact ih
    rw [hshown]
    rfl
  · rw [hw, String.toList_append, String.toList_append, List.append_assoc, List.append_assoc,
      leftSet, signs_sequence s.emphasis.areParameters, signs_append h,
      signs_sequence areParameters_reset, ← List.append_assoc, List.foldl_append]
    rfl

end Span

/-! ### Writing reports -/

namespace Report

/-- The character is in no text of the report. -/
def Lacks (c : Char) (r : Report) : Prop :=
  ∀ line ∈ r, ∀ s ∈ line, c ∉ s.text.toList

variable {r : Report}

theorem toList_writeLine (colored : Bool) (line : List Span) : (writeLine colored line).toList =
    line.flatMap (fun s => (s.write colored).toList) ++ ['\n'] := by
  rw [writeLine, String.toList_append, String.toList_join, List.flatMap_map]
  rfl

theorem toList_write (colored : Bool) (r : Report) : (r.write colored).toList =
    r.flatMap fun line => (writeLine colored line).toList := by
  rw [write, String.toList_join, List.flatMap_map]

theorem styled_write (h : r.Lacks esc) :
    Styled (r.write true).toList (r.write false).toList := by
  rw [toList_write, toList_write]
  refine Styled.flatMap fun line hline => ?_
  rw [toList_writeLine, toList_writeLine]
  exact (Styled.flatMap fun s hs => Span.styled_write (h line hline s hs)).append
    (.of_notMem (by decide))

theorem leftSet_spans {line : List Span} (h : ∀ s ∈ line, esc ∉ s.text.toList) :
    leftSet (line.flatMap fun s => (s.write true).toList) = [] := by
  induction line with
  | nil => rfl
  | cons s line ih =>
    rw [List.forall_mem_cons] at h
    rw [List.flatMap_cons, Span.leftSet_write_append h.1, ih h.2]

/-- No attribute outlives the line on which it is set. -/
theorem leftSet_of_mem_cutLines (hescape : r.Lacks esc) (hfeed : r.Lacks '\n')
    {line : List Char} (hline : line ∈ cutLines (r.write true).toList) : leftSet line = [] := by
  induction r with
  | nil =>
    obtain rfl := List.mem_singleton.mp hline
    rfl
  | cons spans r ih =>
    rw [Lacks, List.forall_mem_cons] at hescape hfeed
    have hspans : '\n' ∉ spans.flatMap fun s => (s.write true).toList := by
      rw [List.mem_flatMap]
      rintro ⟨s, hs, hmem⟩
      exact Span.line_feed_notMem_write (hfeed.1 s hs) hmem
    rw [toList_write, List.flatMap_cons, toList_writeLine, List.append_assoc,
      List.singleton_append, cutLines_append_cons hspans, ← toList_write] at hline
    rcases List.mem_cons.mp hline with rfl | hline
    · exact leftSet_spans hescape.1
    · exact ih hescape.2 hfeed.2 hline

/-! ### Reports that lack a character -/

section
variable {c : Char}

theorem lacks_nil : Lacks c [] :=
  fun _ hline => absurd hline List.not_mem_nil

theorem lacks_cons {line : List Span} : Lacks c (line :: r) ↔
    (∀ s ∈ line, c ∉ s.text.toList) ∧ r.Lacks c :=
  List.forall_mem_cons

theorem lacks_append {r' : Report} : Lacks c (r ++ r') ↔ r.Lacks c ∧ r'.Lacks c :=
  List.forall_mem_append

theorem lacks_singleton {line : List Span} :
    Lacks c [line] ↔ ∀ s ∈ line, c ∉ s.text.toList :=
  List.forall_mem_singleton

theorem lacks_plainLine {text : String} (h : c ∉ text.toList) : Lacks c [plainLine text] := by
  rw [lacks_singleton, plainLine, List.forall_mem_singleton]
  exact h

theorem lacks_toList {line? : Option (List Span)} (h : ∀ line ∈ line?, Lacks c [line]) :
    Lacks c line?.toList := by
  cases line? with
  | none => exact lacks_nil
  | some line => exact h line rfl

end

section
variable {c : Char} (hc : isControl c = true)
include hc

theorem notMem_fixed_append {fixed text : String} (hfixed : IsPrintable fixed)
    (h : c ∉ text.toList) : c ∉ (fixed ++ text).toList :=
  notMem_append (hfixed.notMem hc) h

theorem lacks_detailLine {text : String} (h : c ∉ text.toList) : Lacks c [detailLine text] := by
  have hindent : c ∉ "  ".toList := IsPrintable.notMem (by decide) hc
  rw [lacks_singleton, detailLine, List.forall_mem_cons, List.forall_mem_singleton]
  exact ⟨hindent, notMem_fixed_append hc (by decide) h⟩

theorem lacks_helpLine {indent text : String} (hindent : IsPrintable indent)
    (h : c ∉ text.toList) : Lacks c [helpLine indent text] := by
  have hhelp : c ∉ "help:".toList := IsPrintable.notMem (by decide) hc
  rw [lacks_singleton, helpLine, List.forall_mem_cons, List.forall_mem_cons,
    List.forall_mem_singleton]
  exact ⟨hindent.notMem hc, hhelp, notMem_fixed_append hc (by decide) h⟩

variable {detail? advice? : Option String} (hdetail : ∀ t ∈ detail?, c ∉ t.toList)
  (hadvice : ∀ t ∈ advice?, c ∉ t.toList)
include hdetail hadvice

theorem lacks_particulars : Lacks c (particulars detail? advice?) := by
  refine lacks_append.mpr ⟨lacks_toList fun line hline => ?_, lacks_toList fun line hline => ?_⟩
  · obtain ⟨detail, hd, rfl⟩ := Option.map_eq_some_iff.mp hline
    exact lacks_detailLine hc (hdetail detail hd)
  · obtain ⟨advice, ha, rfl⟩ := Option.map_eq_some_iff.mp hline
    exact lacks_helpLine hc (by decide) (hadvice advice ha)

theorem lacks_error {kind message : String} (hkind : c ∉ kind.toList)
    (hmessage : c ∉ message.toList) : Lacks c (error kind message detail? advice?) := by
  have hcolon : c ∉ ":".toList := IsPrintable.notMem (by decide) hc
  refine lacks_cons.mpr ⟨?_, lacks_particulars hc hdetail hadvice⟩
  rw [List.forall_mem_cons, List.forall_mem_singleton]
  exact ⟨notMem_append (notMem_fixed_append hc (by decide) hkind) hcolon,
    notMem_fixed_append hc (by decide) hmessage⟩

theorem lacks_warning {message : String} (hmessage : c ∉ message.toList) :
    Lacks c (warning message detail? advice?) := by
  have hmark : c ∉ "⚠ Warning:".toList := IsPrintable.notMem (by decide) hc
  refine lacks_cons.mpr ⟨?_, lacks_particulars hc hdetail hadvice⟩
  rw [List.forall_mem_cons, List.forall_mem_singleton]
  exact ⟨hmark, notMem_fixed_append hc (by decide) hmessage⟩

end

/-! ### Diagnostics -/

section
variable {c : Char} (hc : isControl c = true)
include hc

/-- No line of a hint has a line feed in it, even where the hint has several lines. -/
theorem lacks_hintLines {hint : String} (h : c ∈ hint.toList → c = '\n') :
    Lacks c (hintLines hint) := by
  have hlines : ∀ line ∈ lines hint.toList, c ∉ (String.ofList line).toList := by
    intro line hline hmem
    rw [String.toList_ofList] at hmem
    obtain ⟨hhint, hne⟩ := of_mem_lines hline hmem
    exact hne (h hhint)
  unfold hintLines
  split
  · exact lacks_nil
  · next first rest heq =>
    rw [heq, List.forall_mem_cons] at hlines
    have hindent : IsPrintable "    " := by decide
    have hfirst := lacks_singleton.mp (lacks_helpLine hc hindent hlines.1)
    refine lacks_cons.mpr ⟨hfirst, fun line hline => ?_⟩
    obtain ⟨text, htext, rfl⟩ := List.mem_map.mp hline
    have htext : c ∉ ("          " ++ String.ofList text).toList :=
      notMem_fixed_append hc (by decide) (hlines.2 text htext)
    exact lacks_singleton.mp (lacks_plainLine htext)

end
end Report

/-- The texts of a diagnostic that are told as they are. -/
def Diagnostic.texts (d : Diagnostic) : List String :=
  d.message :: d.source.toList

theorem Diagnostic.isPrintable_countText (ds : List Diagnostic) : IsPrintable (countText ds) := by
  unfold countText
  split
  · decide
  · exact (isPrintable_toString ds.length).append (by decide)

theorem Toml.Fault.isPrintable_of_mem_place? {fault : Toml.Fault} :
    ∀ t ∈ fault.place?, IsPrintable t := by
  intro t ht
  obtain ⟨⟨start, stop⟩, -, rfl⟩ := Option.map_eq_some_iff.mp ht
  have hstart : IsPrintable ("at bytes " ++ toString start) :=
    .append (by decide) (isPrintable_toString start)
  exact (hstart.append (by decide)).append (isPrintable_toString stop)

namespace Report
section
variable {c : Char} (hc : isControl c = true)
include hc

theorem lacks_ofDiagnostic {d : Diagnostic} (htexts : ∀ t ∈ d.texts, c ∉ t.toList)
    (hhint : ∀ t ∈ d.hint, c ∈ t.toList → c = '\n') : Lacks c (ofDiagnostic d) := by
  rw [Diagnostic.texts, List.forall_mem_cons] at htexts
  refine lacks_append.mpr ⟨lacks_append.mpr ⟨?_, lacks_toList fun line hline => ?_⟩, ?_⟩
  · exact lacks_detailLine hc (Diagnostic.notMem_text hc htexts.1)
  · obtain ⟨source, hs, rfl⟩ := Option.map_eq_some_iff.mp hline
    have hsource := htexts.2 source (Option.mem_toList.mpr hs)
    exact lacks_plainLine (notMem_fixed_append hc (by decide) hsource)
  · cases hh : d.hint with
    | none => exact lacks_nil
    | some hint => exact lacks_hintLines hc (hhint hint hh)

theorem lacks_ofDiagnostics {ds : List Diagnostic}
    (htexts : ∀ t ∈ ds.flatMap Diagnostic.texts, c ∉ t.toList)
    (hhints : ∀ t ∈ ds.filterMap Diagnostic.hint, c ∈ t.toList → c = '\n') :
    Lacks c (ofDiagnostics ds) := by
  refine lacks_append.mpr ⟨?_, fun line hline => ?_⟩
  · have hkind : c ∉ "Parse".toList := IsPrintable.notMem (by decide) hc
    exact lacks_error hc (by simp) (by simp) hkind
      ((Diagnostic.isPrintable_countText ds).notMem hc)
  · obtain ⟨d, hd, hline⟩ := List.mem_flatMap.mp hline
    refine lacks_ofDiagnostic hc (fun t ht => ?_) (fun t ht => ?_) line hline
    · exact htexts t (List.mem_flatMap.mpr ⟨d, hd, ht⟩)
    · exact hhints t (List.mem_filterMap.mpr ⟨d, hd, ht⟩)

end
end Report

/-! ### Failures -/

namespace Failure

/-- The texts that a failure comes with, and tells as they are. -/
def texts : Failure → List String
  | configuration message => [message]
  | unreadable path reason => [path, reason]
  | io reason => [reason]
  | undecodableSettings fault => [fault.message]
  | undecodableChart reason => [reason]
  | document diagnostics => diagnostics.flatMap Diagnostic.texts
  | drawing (.negativeSlice _ label _) => [label]
  | drawing _ => []

/-- The hints that a failure comes with, and tells line by line. -/
def hints : Failure → List String
  | document diagnostics => diagnostics.filterMap Diagnostic.hint
  | _ => []

theorem isPrintable_kind (f : Failure) : IsPrintable f.kind := by
  unfold kind
  split <;> decide

theorem isPrintable_of_mem_advice? {f : Failure} : ∀ t ∈ f.advice?, IsPrintable t := by
  unfold advice?
  split <;> simp only [Option.mem_def, Option.some.injEq, forall_eq', reduceCtorEq, false_implies,
    implies_true] <;> decide

variable {f : Failure} {c : Char} (h : ∀ t ∈ f.texts, c ∉ t.toList)
include h

theorem notMem_detail? (hc : isControl c = true) : ∀ t ∈ f.detail?, c ∉ t.toList := by
  unfold detail?
  split
  · simpa using h _ (.tail _ (.head _))
  · exact fun t ht => (Toml.Fault.isPrintable_of_mem_place? t ht).notMem hc
  · simp

theorem notMem_message (hc : isControl c = true) : c ∉ f.message.toList := by
  cases f with
  | configuration message => exact h message (.head _)
  | unreadable path reason => exact h path (.head _)
  | io reason => exact h reason (.head _)
  | undecodableSettings fault => exact h fault.message (.head _)
  | undecodableChart reason => exact h reason (.head _)
  | document ds => exact (Diagnostic.isPrintable_countText ds).notMem hc
  | drawing error =>
    refine RenderError.notMem_message hc fun type label value he => ?_
    rw [he] at h
    exact h label (.head _)

end Failure

/-! ### Notices -/

/-- What there is to report: a failure, or an error, a warning or diagnostics on their own. -/
inductive Notice
  | failure (f : Failure)
  | error (kind message : String) (detail? advice? : Option String)
  | warning (message : String) (detail? advice? : Option String)
  | diagnostics (ds : List Diagnostic)
deriving Repr, DecidableEq

namespace Notice

def report : Notice → Report
  | failure f => .ofFailure f
  | error kind message detail? advice? => .error kind message detail? advice?
  | warning message detail? advice? => .warning message detail? advice?
  | diagnostics ds => .ofDiagnostics ds

/-- The texts that are told as they are. -/
def texts : Notice → List String
  | failure f => f.texts
  | error kind message detail? advice? => kind :: message :: (detail?.toList ++ advice?.toList)
  | warning message detail? advice? => message :: (detail?.toList ++ advice?.toList)
  | diagnostics ds => ds.flatMap Diagnostic.texts

/-- The texts that are told line by line. -/
def hints : Notice → List String
  | failure f => f.hints
  | diagnostics ds => ds.filterMap Diagnostic.hint
  | error .. | warning .. => []

/-- A control character in a report comes from the texts of its notice. -/
theorem lacks_report {n : Notice} {c : Char} (hc : isControl c = true)
    (htexts : ∀ t ∈ n.texts, c ∉ t.toList) (hhints : ∀ t ∈ n.hints, c ∈ t.toList → c = '\n') :
    n.report.Lacks c := by
  cases n with
  | failure f =>
    have herror := Report.lacks_error hc (f.notMem_detail? htexts hc)
      (fun t ht => (f.isPrintable_of_mem_advice? t ht).notMem hc) (f.isPrintable_kind.notMem hc)
      (f.notMem_message htexts hc)
    cases f with
    | document ds => exact Report.lacks_ofDiagnostics hc htexts hhints
    | _ => exact herror
  | error kind message detail? advice? =>
    simp only [texts, List.forall_mem_cons, List.forall_mem_append, Option.mem_toList] at htexts
    obtain ⟨hkind, hmessage, hdetail, hadvice⟩ := htexts
    exact Report.lacks_error hc hdetail hadvice hkind hmessage
  | warning message detail? advice? =>
    simp only [texts, List.forall_mem_cons, List.forall_mem_append, Option.mem_toList] at htexts
    obtain ⟨hmessage, hdetail, hadvice⟩ := htexts
    exact Report.lacks_warning hc hdetail hadvice hmessage
  | diagnostics ds => exact Report.lacks_ofDiagnostics hc htexts hhints

open Report in
/-- A coloured report shows what the plain one says, line by line, and sets no attribute beyond the
end of a line. Hints may have line feeds in them. -/
theorem write_colored (n : Notice) (hesc : ∀ t ∈ n.texts ++ n.hints, esc ∉ t.toList) :
    let plain := (n.report.write false).toList
    let colored := (n.report.write true).toList
    unstyled colored = plain ∧ (cutLines colored).map unstyled = cutLines plain ∧
      esc ∉ plain ∧
      ((∀ t ∈ n.texts, '\n' ∉ t.toList) → ∀ line ∈ cutLines colored, leftSet line = []) := by
  intro plain colored
  rw [List.forall_mem_append] at hesc
  have hlacks : n.report.Lacks esc :=
    lacks_report rfl hesc.1 fun t ht hmem => absurd hmem (hesc.2 t ht)
  have hstyled : Styled colored plain := styled_write hlacks
  refine ⟨hstyled.unstyled_eq, hstyled.map_unstyled_cutLines, hstyled.escape_notMem, ?_⟩
  intro hfeed line hline
  exact leftSet_of_mem_cutLines hlacks (lacks_report rfl hfeed fun _ _ _ => rfl) hline

theorem write_colored_hint :
    let n := diagnostics [⟨2, "\"x\" is not a valid number", some "Use a number\nlike: A: 100",
      some "A: x"⟩]
    (∀ t ∈ n.texts ++ n.hints, Report.esc ∉ t.toList) ∧ (∀ t ∈ n.texts, '\n' ∉ t.toList) ∧
      n.report.write true ≠ n.report.write false ∧
      Report.unstyled (n.report.write true).toList = ("✖ Parse: 1 problem found\n" ++
        "  × Line 2: \"x\" is not a valid number\n    | A: x\n" ++
        "    help: Use a number\n          like: A: 100\n").toList ∧
      (∀ line ∈ cutLines (n.report.write true).toList, Report.leftSet line = []) :=
  have hesc := by decide
  have h := write_colored (diagnostics [⟨2, "\"x\" is not a valid number",
    some "Use a number\nlike: A: 100", some "A: x"⟩]) hesc
  ⟨hesc, by decide, by decide, h.1.trans (by decide +kernel), h.2.2.2 (by decide)⟩

end Notice
end ChartText
