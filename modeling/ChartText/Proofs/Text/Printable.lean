/-! # Printable texts

Fixed texts and numbers are printable: there is no control character in them. So a control character
in a message, such as a line feed or an escape character, comes from a text that the message
quotes. -/

namespace ChartText.Text

def isControl (c : Char) : Bool :=
  c.toNat < 0x20

/-- The text has no control character in it. -/
def IsPrintable (s : String) : Prop :=
  s.toList.all (!isControl ·) = true

-- given by hand, so that no instance that goes through all characters is found
instance decidableIsPrintable (s : String) : Decidable (IsPrintable s) :=
  inferInstanceAs (Decidable (s.toList.all (!isControl ·) = true))

namespace IsPrintable
variable {s t : String}

theorem of_forall (h : ∀ c ∈ s.toList, isControl c = false) : IsPrintable s :=
  List.all_eq_true.mpr fun c hc => by simp [h c hc]

theorem notMem (h : IsPrintable s) {c : Char} (hc : isControl c = true) : c ∉ s.toList := by
  intro hmem
  have hnot := List.all_eq_true.mp h c hmem
  rw [hc] at hnot
  cases hnot

theorem append (hs : IsPrintable s) (ht : IsPrintable t) : IsPrintable (s ++ t) := by
  rw [IsPrintable, String.toList_append, List.all_append, hs, ht, Bool.and_true]

end IsPrintable

theorem isControl_of_isDigit {c : Char} (h : c.isDigit = true) : isControl c = false := by
  simp only [Char.isDigit, Bool.and_eq_true, decide_eq_true_eq] at h
  have hdigit : 48 ≤ c.toNat := h.1
  simp only [isControl, decide_eq_false_iff_not]
  omega

theorem isPrintable_toString (n : Nat) : IsPrintable (toString n) := by
  refine .of_forall fun c hc => ?_
  rw [Nat.toString_eq_ofList_toDigits, String.toList_ofList] at hc
  exact isControl_of_isDigit (Nat.isDigit_of_mem_toDigits (by decide) (by decide) hc)

theorem notMem_append {c : Char} {s t : String} (hs : c ∉ s.toList) (ht : c ∉ t.toList) :
    c ∉ (s ++ t).toList := by
  rw [String.toList_append, List.mem_append, not_or]
  exact ⟨hs, ht⟩

end ChartText.Text
