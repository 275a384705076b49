import ChartText.Proofs.Source.Joined
import ChartText.Proofs.Source.Malformed
import ChartText.Proofs.Text.Filled

/-! # Messages of diagnostics

The message of a diagnostic quotes at most a part of its line, so it is a line itself, and the
one-line forms of the diagnostics of a document can be told apart when they are joined
(`cutLines_joined`). -/

namespace ChartText.Source
open Text

theorem Line.line_feed_notMem_message {trimmed : List Char} {fault : Fault}
    (h : ofTrimmed trimmed = .faulty fault) : '\n' ∉ fault.message.toList := by
  have hmessage : fault.message = "Use ':' instead of '='" ∨
      fault.message = "Missing ':' separator" ∨ fault.message = "Empty label before ':'" ∨
      fault.message = "Missing value after ':'" := by
    unfold ofTrimmed at h
    split at h
    · cases h
    · split at h
      · cases h
        split
        · exact .inl rfl
        · exact .inr (.inl rfl)
      · dsimp only at h
        split at h
        · cases h
          exact .inr (.inr (.inl rfl))
        · split at h
          · cases h
            exact .inr (.inr (.inr rfl))
          · cases h
  rcases hmessage with h | h | h | h <;> rw [h] <;> decide

/-- Beginning like the name adds nothing to having the first letter in it. -/
theorem Vocabulary.suggestion_eq (v : Vocabulary) (unknown : List Char) :
    v.suggestion unknown =
      (v.chartTypes.find? fun type => type.name.toList.head?.any (lower unknown).contains).getD
        .bar := by
  unfold suggestion
  dsimp only
  congr 2
  funext type
  cases type.name.toList with
  | nil => rfl
  | cons initial rest =>
    have hhead : (lower unknown).head? = some initial → initial ∈ lower unknown :=
      List.mem_of_mem_head?
    simpa using hhead

theorem line_feed_notMem_value {source line key value : List Char} (hl : line ∈ cutLines source)
    (h : IsEntry line key value) : '\n' ∉ value := by
  obtain ⟨before, after, hcut, -, -, rfl⟩ := h.cut
  intro hmem
  have hline : '\n' ∈ trim line := by
    rw [hcut]
    exact List.mem_append_right _ (List.mem_cons_of_mem _ (mem_of_mem_trim hmem))
  have hfeed := of_mem_cutAt hl (mem_of_mem_trim hline)
  simp at hfeed

section
variable {v : Vocabulary} {source : List Char} {d : Diagnostic}

/-- A fault of a line, in whichever section, is one of the line itself or quotes its value. -/
theorem line_feed_notMem_message_of_mem (h : d ∈ lineDiagnostics v (numberedLines source)) :
    '\n' ∉ d.message.toList := by
  have hfault : ∃ l ∈ numberedLines source, ∃ fault : Fault, d = l.diagnostic fault ∧
      (l.line = .faulty fault ∨ ∃ key value, l.line = .entry key value ∧
        (fault = .unknownType v value ∨ fault = .notANumber key value)) := by
    rcases mem_lineDiagnostics.mp h with ⟨l, hl, fault, hf, rfl⟩ | ⟨l, hl, fault, hf, rfl⟩
    · refine ⟨l, (List.takeWhile_prefix _).subset hl, fault, rfl, ?_⟩
      rcases Header.fault?_eq_some_iff.mp hf with hf | ⟨key, value, he, -, -, rfl⟩
      · exact .inl hf
      · exact .inr ⟨key, value, he, .inl rfl⟩
    · refine ⟨l, (List.dropWhile_suffix _).subset hl, fault, rfl, ?_⟩
      unfold Row.fault? at hf
      split at hf
      · cases hf
      · next faulty hl' =>
        cases hf
        exact .inl hl'
      · next key value he =>
        refine .inr ⟨key, value, he, .inr ?_⟩
        split at hf
        · cases hf
        · next faulty hfault =>
          cases hf
          exact Row.eq_notANumber_of_ofEntry hfault
  obtain ⟨l, hl, fault, rfl, hl' | ⟨key, value, he, hquote⟩⟩ := hfault
  · exact Line.line_feed_notMem_message hl'
  · obtain ⟨i, line, hi, rfl⟩ := mem_numberedLines.mp hl
    have hvalue := line_feed_notMem_value (List.mem_of_getElem? hi)
      (Line.ofTrimmed_eq_entry_iff.mp he)
    have hquoted : ∀ before after : String, '\n' ∉ before.toList → '\n' ∉ after.toList →
        '\n' ∉ (before ++ String.ofList value ++ after).toList := by
      intro before after hb ha
      simp only [String.toList_append, String.toList_ofList, List.mem_append, not_or]
      exact ⟨⟨hb, hvalue⟩, ha⟩
    rcases hquote with rfl | rfl
    · exact hquoted "Unknown chart type \"" "\"" (by decide) (by decide)
    · exact hquoted "\"" "\" is not a valid number" (by decide) (by decide)

end

/-- Whatever is wrong with a document is told in messages of one line each, at least one. -/
theorem line_feed_notMem_message_of_parse {v : Vocabulary} {source : String} {ds : List Diagnostic}
    (h : parse v source = .error ds) : ds ≠ [] ∧ ∀ d ∈ ds, '\n' ∉ d.message.toList := by
  unfold parse parseLines at h
  dsimp only at h
  split at h
  · split at h
    · obtain rfl := Except.error.inj h
      refine ⟨by simp, fun d hd => ?_⟩
      rw [List.mem_singleton.mp hd]
      decide
    · cases h
  · next hne =>
    obtain rfl := Except.error.inj h
    exact ⟨hne, fun d hd => line_feed_notMem_message_of_mem hd⟩

end Source

theorem Diagnostic.notMem_text {d : Diagnostic} {c : Char} (hc : Text.isControl c = true)
    (h : c ∉ d.message.toList) : c ∉ d.text.toList := by
  have hline : Text.IsPrintable ("Line " ++ toString d.line ++ ": ") :=
    (Text.IsPrintable.append (by decide) (Text.isPrintable_toString d.line)).append (by decide)
  exact Text.notMem_append (hline.notMem hc) h

namespace Source

theorem cutLines_joined {v : Vocabulary} {source : String} {ds : List Diagnostic}
    (h : parse v source = .error ds) :
    Text.cutLines ("\n".intercalate (ds.map Diagnostic.text)).toList =
      ds.map fun d => d.text.toList := by
  obtain ⟨hne, hmessage⟩ := line_feed_notMem_message_of_parse h
  rw [String.toList_intercalate, List.map_map]
  refine cutLines_intercalate (by simpa using hne) fun line hline => ?_
  obtain ⟨d, hd, rfl⟩ := List.mem_map.mp hline
  exact Diagnostic.notMem_text rfl (hmessage d hd)

end Source
end ChartText
