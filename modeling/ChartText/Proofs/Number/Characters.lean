import ChartText.Source.Value

/-! # The characters of a number

What `Literal.ofChars?` reads consists of digits, signs, points and the letter of the exponent. So a
token that is a number holds nothing else besides its decoration, and it is never empty. -/

namespace ChartText

namespace Literal

/-- Digits, signs, the point and the letter of the exponent. -/
def isNumeric (c : Char) : Bool :=
  c.isDigit || c == '+' || c == '-' || c == '.' || c == 'e' || c == 'E'

theorem isNumeric_of_isDigit {c : Char} (h : c.isDigit = true) : isNumeric c = true := by
  simp [isNumeric, h]

theorem mem_splitSign {s : List Char} {c : Char} (h : c ∈ s) :
    isNumeric c = true ∨ c ∈ (splitSign s).2 := by
  unfold splitSign
  split
  · rcases List.mem_cons.mp h with rfl | h
    · exact .inl rfl
    · exact .inr h
  · rcases List.mem_cons.mp h with rfl | h
    · exact .inl rfl
    · exact .inr h
  · exact .inr h

theorem mem_splitFraction {s : List Char} {c : Char} (h : c ∈ s) :
    isNumeric c = true ∨ c ∈ (splitFraction s).2 := by
  unfold splitFraction
  split
  · next rest =>
    rcases List.mem_cons.mp h with rfl | h
    · exact .inl rfl
    · rw [← List.takeWhile_append_dropWhile (p := Char.isDigit) (l := rest)] at h
      rcases List.mem_append.mp h with h | h
      · have := List.all_eq_true.mp (List.all_takeWhile (p := Char.isDigit) (l := rest)) c h
        exact .inl (isNumeric_of_isDigit this)
      · exact .inr h
  · exact .inr h

theorem isNumeric_of_exponent? {s : List Char} {n : Int} (h : exponent? s = some n) :
    ∀ c ∈ s, isNumeric c = true := by
  unfold exponent? at h
  split at h
  · simp
  · next e rest =>
    split at h
    · next he =>
      dsimp only at h
      split at h
      · next hd =>
        simp only [Bool.and_eq_true, List.all_eq_true] at hd
        intro c hc
        rcases List.mem_cons.mp hc with rfl | hc
        · simp only [isNumeric, Bool.or_eq_true] at he ⊢
          exact he.elim (fun he => .inl (.inr he)) .inr
        · exact (mem_splitSign hc).elim id fun hc => isNumeric_of_isDigit (hd.2 c hc)
      · cases h
    · cases h

theorem isNumeric_of_ofChars? {s : List Char} {l : Literal} (h : ofChars? s = some l) :
    ∀ c ∈ s, isNumeric c = true := by
  unfold ofChars? at h
  dsimp only at h
  split at h
  · cases h
  · simp only [Option.bind_eq_bind, Option.bind_eq_some_iff] at h
    obtain ⟨n, hn, -⟩ := h
    intro c hc
    refine (mem_splitSign hc).elim id fun hc => ?_
    rw [← List.takeWhile_append_dropWhile (p := Char.isDigit) (l := (splitSign s).2)] at hc
    rcases List.mem_append.mp hc with hc | hc
    · have := List.all_eq_true.mp (List.all_takeWhile (p := Char.isDigit)) c hc
      exact isNumeric_of_isDigit this
    · exact (mem_splitFraction hc).elim id (isNumeric_of_exponent? hn c)

end Literal

namespace Source

theorem ne_nil_of_isNumber {token : List Char} (h : isNumber token = true) : token ≠ [] := by
  rintro rfl
  exact absurd h (by decide)

theorem wideComma_notMem_of_isNumber {token : List Char} (h : isNumber token = true) :
    wideComma ∉ token := by
  intro hmem
  obtain ⟨x, hx⟩ := Option.isSome_iff_exists.mp h
  unfold number? at hx
  split at hx
  · cases hx
  · next l hl =>
    have hkept : wideComma ∈ token.filter (!isDecoration ·) :=
      List.mem_filter.mpr ⟨hmem, by decide⟩
    exact absurd (Literal.isNumeric_of_ofChars? hl _ hkept) (by decide)

end Source
end ChartText
