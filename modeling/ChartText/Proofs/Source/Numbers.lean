import ChartText.Proofs.Number.Characters
import ChartText.Proofs.Number.Spelling
import ChartText.Proofs.Source.Pieces

/-! # Which tokens are numbers

A token is a number if what is left of it without decoration spells one whose nearest double is
finite, and then it is that double (`number?_eq_some_iff`). The words for infinity and not-a-number,
which `readFloat?` knows, are no numbers. -/

namespace ChartText

namespace Literal

theorem toLower_ne_of_isNumeric {c : Char} (h : isNumeric c = true) : c.toLower ≠ 'n' := by
  simp only [isNumeric, Bool.or_eq_true, beq_iff_eq] at h
  rcases h with ((((hdigit | rfl) | rfl) | rfl) | rfl) | rfl
  · simp only [Char.isDigit, Bool.and_eq_true, decide_eq_true_eq] at hdigit
    unfold Char.toLower
    split
    · next hupper => exact absurd (UInt32.le_trans hupper.1 hdigit.2) (by decide)
    · rintro rfl
      exact absurd hdigit.2 (by decide)
  all_goals decide

end Literal

/-- The words that `readFloat?` knows, in any case. -/
def IsNumberWord (s : List Char) : Prop :=
  ∃ word ∈ ["inf", "infinity", "nan"], Text.sameIgnoringCase s word.toList = true

theorem IsNumberWord.exists_n {s : List Char} (h : IsNumberWord s) : ∃ c ∈ s, c.toLower = 'n' := by
  obtain ⟨word, hword, hs⟩ := h
  have hn : 'n' ∈ Text.lower word.toList := by
    simp only [List.mem_cons, List.not_mem_nil, or_false] at hword
    rcases hword with rfl | rfl | rfl <;> decide
  rw [← eq_of_beq hs] at hn
  exact List.mem_map.mp hn

theorem Literal.ofChars?_word {sign word : List Char} (h : IsNumberWord word) :
    ofChars? (sign ++ word) = none := by
  obtain ⟨c, hc, hlower⟩ := h.exists_n
  rw [Option.eq_none_iff_forall_ne_some]
  intro l hl
  have hnumeric := isNumeric_of_ofChars? hl c (List.mem_append_right sign hc)
  exact toLower_ne_of_isNumeric hnumeric hlower

theorem isFinite_of_floatOfWord? {s : List Char} {x : Float} (h : floatOfWord? s = some x) :
    x.isFinite = false := by
  unfold floatOfWord? at h
  dsimp only at h
  split at h
  · obtain rfl := Option.some.inj h
    generalize (Literal.splitSign s).1 = negative
    cases negative <;> decide
  · split at h
    · obtain rfl := Option.some.inj h
      decide
    · cases h

namespace Source
open Text

/-- What a number is read from. -/
def undecorated (token : List Char) : List Char :=
  token.filter (!isDecoration ·)

theorem number?_eq_filter (token : List Char) :
    number? token = (readFloat? (undecorated token)).filter Float.isFinite := by
  unfold number? readFloat? undecorated
  cases Literal.ofChars? (token.filter (!isDecoration ·)) with
  | none =>
    dsimp only
    cases hword : floatOfWord? (token.filter (!isDecoration ·)) with
    | none => rfl
    | some x =>
      rw [Option.filter_some, isFinite_of_floatOfWord? hword]
      rfl
  | some l => exact Option.filter_some.symm

/-- What spells a number is one unless its nearest double is too large. -/
theorem number?_of_text {token : List Char} {n : Spelling} {x : Float} (hn : n.WellFormed)
    (htext : undecorated token = n.text) (hx : n.Denotes x) :
    number? token = if x.isFinite then some x else none := by
  rw [number?, ← undecorated, htext, Literal.ofChars?_text hn]
  dsimp only
  rw [n.denotes_toFloat.eq hx]

theorem number?_eq_some_iff {token : List Char} {x : Float} :
    number? token = some x ↔ ∃ n : Spelling, n.WellFormed ∧ undecorated token = n.text ∧
      n.Denotes x ∧ x.isFinite = true := by
  constructor
  · intro h
    have hfinite := isFinite_of_number? h
    unfold number? at h
    split at h
    · cases h
    · next l hl =>
      obtain ⟨n, hn, htext, rfl⟩ := Literal.ofChars?_eq_some_iff.mp hl
      dsimp only at h
      split at h
      · obtain rfl := Option.some.inj h
        exact ⟨n, hn, htext, n.denotes_toFloat, hfinite⟩
      · cases h
  · rintro ⟨n, hn, htext, hx, hfinite⟩
    rw [number?_of_text hn htext hx, if_pos hfinite]

theorem undecorated_insert (before after : List Char) {decoration : List Char}
    (h : ∀ c ∈ decoration, isDecoration c = true) :
    undecorated (before ++ decoration ++ after) = undecorated (before ++ after) := by
  have hnone : decoration.filter (!isDecoration ·) = [] :=
    List.filter_eq_nil_iff.mpr fun c hc => by simp [h c hc]
  rw [undecorated, undecorated, List.filter_append, List.filter_append, List.filter_append, hnone,
    List.append_nil]

/-- Exactly the decorated decimal numbers whose nearest double is finite are numbers. No word is one,
a number that overflows is none, and decoration makes no difference wherever it stands. -/
theorem number?_decorated (token : List Char) :
    (∀ x, number? token = some x ↔ ∃ n : Spelling, n.WellFormed ∧ undecorated token = n.text ∧
      n.Denotes x ∧ x.isFinite = true) ∧
    (∀ n : Spelling, ∃! x, n.Denotes x) ∧
    number? token = (readFloat? (undecorated token)).filter Float.isFinite ∧
    (∀ sign word, IsSign sign → IsNumberWord word → undecorated token = sign ++ word →
      number? token = none) ∧
    (∀ (n : Spelling) x, n.WellFormed → undecorated token = n.text → n.Denotes x →
      x.isFinite = false → number? token = none) ∧
    ∀ before decoration after, token = before ++ decoration ++ after →
      (∀ c ∈ decoration, isDecoration c = true) → number? token = number? (before ++ after) := by
  refine ⟨fun x => number?_eq_some_iff, fun n => ?_, number?_eq_filter token, ?_, ?_, ?_⟩
  · exact ⟨n.literal.toFloat, n.denotes_toFloat, fun y hy => hy.eq n.denotes_toFloat⟩
  · intro sign word _ hword htext
    rw [number?, ← undecorated, htext, Literal.ofChars?_word hword]
  · intro n x hn htext hx hfinite
    rw [number?_of_text hn htext hx, if_neg (Bool.eq_false_iff.mp hfinite)]
  · rintro before decoration after rfl hdecoration
    exact number?_congr (undecorated_insert before after hdecoration)

/-- A price with decoration inside, a word, a number that overflows, and a cut number. -/
theorem number?_decorated_price :
    number? "$1,2 3.5e%2".toList = some 12350.0 ∧ number? " -I,nF".toList = none ∧
      number? "+.9e309".toList = none ∧ number? "1$,2".toList = number? "12".toList := by
  let price : Spelling := ⟨[], "123".toList, some "5".toList, some ⟨'e', [], "2".toList⟩⟩
  have hprice : price.WellFormed := by
    refine ⟨.inl rfl, by decide, by decide, .inl (by decide), ?_⟩
    rintro e ⟨⟩
    exact ⟨.inl rfl, .inl rfl, by decide, by decide⟩
  let large : Spelling := ⟨['+'], [], some ['9'], some ⟨'e', [], "309".toList⟩⟩
  have hlarge : large.WellFormed := by
    refine ⟨.inr (.inl rfl), by decide, by decide, .inr (by decide), ?_⟩
    rintro e ⟨⟩
    exact ⟨.inl rfl, .inl rfl, by decide, by decide⟩
  have hvalue : price.literal.toFloat = 12350.0 := by decide +kernel
  have hword : IsNumberWord "InF".toList := ⟨"inf", by decide, by decide⟩
  obtain ⟨hprice_iff, -⟩ := number?_decorated "$1,2 3.5e%2".toList
  obtain ⟨-, -, -, hnone, -⟩ := number?_decorated " -I,nF".toList
  obtain ⟨-, -, -, -, hoverflow, -⟩ := number?_decorated "+.9e309".toList
  obtain ⟨-, -, -, -, -, hinsert⟩ := number?_decorated "1$,2".toList
  refine ⟨?_, ?_, ?_, ?_⟩
  · exact (hprice_iff _).mpr ⟨price, hprice, by decide, hvalue ▸ price.denotes_toFloat, by decide⟩
  · exact hnone ['-'] "InF".toList (.inr (.inr rfl)) hword (by decide)
  · exact hoverflow large _ hlarge (by decide) large.denotes_toFloat (by decide +kernel)
  · exact hinsert ['1'] ['$', ','] ['2'] (by decide) (List.all_eq_true.mp rfl)

end Source

end ChartText
