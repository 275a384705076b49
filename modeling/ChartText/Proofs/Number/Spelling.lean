import ChartText.Proofs.Lists
import ChartText.Proofs.Number.Decimals

/-! # How decimal numbers are spelled

A `Spelling` holds the parts of a decimal number as it is written, and `Spelling.value` is the exact
number. `Literal.ofChars?` reads a text exactly if it is a well-formed spelling
(`Literal.ofChars?_eq_some_iff`), and the double that it is read as is the one nearest to the value
(`Spelling.denotes_toFloat`). -/

namespace ChartText

/-- Nothing, or a plus, or a minus. -/
def IsSign (s : List Char) : Prop :=
  s = [] ∨ s = ['+'] ∨ s = ['-']

def AllDigits (s : List Char) : Prop :=
  ∀ c ∈ s, c.isDigit = true

instance (s : List Char) : Decidable (AllDigits s) :=
  decidable_of_iff (s.all Char.isDigit = true) List.all_eq_true

/-- The number that decimal digits stand for. -/
def digitsValue (s : List Char) : Nat :=
  Nat.ofDigits 10 (s.reverse.map Literal.digitValue)

structure ExponentSpelling where
  letter : Char
  sign : List Char
  digits : List Char

namespace ExponentSpelling

def text (e : ExponentSpelling) : List Char :=
  e.letter :: e.sign ++ e.digits

def value (e : ExponentSpelling) : Int :=
  if e.sign = ['-'] then -(digitsValue e.digits : Int) else digitsValue e.digits

structure WellFormed (e : ExponentSpelling) : Prop where
  letter : e.letter = 'e' ∨ e.letter = 'E'
  sign : IsSign e.sign
  digits_ne_nil : e.digits ≠ []
  digits : AllDigits e.digits

end ExponentSpelling

structure Spelling where
  sign : List Char
  whole : List Char
  /-- The digits behind the point, if there is a point. -/
  fraction : Option (List Char)
  exponent : Option ExponentSpelling

namespace Spelling

def fractionDigits (n : Spelling) : List Char :=
  n.fraction.getD []

def text (n : Spelling) : List Char :=
  n.sign ++ (n.whole ++ ((n.fraction.elim [] ('.' :: ·)) ++ n.exponent.elim [] ExponentSpelling.text))

/-- There is a digit before the point or behind it. -/
structure WellFormed (n : Spelling) : Prop where
  sign : IsSign n.sign
  whole : AllDigits n.whole
  fraction : AllDigits n.fractionDigits
  digits : n.whole ≠ [] ∨ n.fractionDigits ≠ []
  exponent : ∀ e, n.exponent = some e → e.WellFormed

def isNegative (n : Spelling) : Bool :=
  n.sign = ['-']

/-- The exact number. -/
def value (n : Spelling) : ℚ :=
  Binary64.withSign n.isNegative
    ((digitsValue n.whole + digitsValue n.fractionDigits / 10 ^ n.fractionDigits.length) *
      10 ^ n.exponent.elim 0 ExponentSpelling.value)

def literal (n : Spelling) : Literal where
  negative := n.isNegative
  digits := n.whole ++ n.fractionDigits
  exponent := n.exponent.elim 0 ExponentSpelling.value - n.fractionDigits.length

end Spelling

/-! ### The value of digits -/

theorem digitsValue_append (s t : List Char) :
    digitsValue (s ++ t) = digitsValue s * 10 ^ t.length + digitsValue t := by
  rw [digitsValue, List.reverse_append, List.map_append, Nat.ofDigits_append, ← digitsValue,
    ← digitsValue, List.length_map, List.length_reverse]
  ring

theorem natOfDigits_eq (s : List Char) : Literal.natOfDigits s = digitsValue s := by
  induction s using List.reverseRecOn with
  | nil => rfl
  | append_singleton s c ih =>
    rw [Literal.natOfDigits, List.foldl_append, ← Literal.natOfDigits, ih, digitsValue_append,
      List.length_singleton, pow_one, Nat.mul_comm]
    exact congrArg (10 * digitsValue s + ·) Nat.ofDigits_singleton.symm

namespace Literal

/-! ### The parts -/

theorem splitSign_append {sign rest : List Char} (hs : IsSign sign)
    (hr : ∀ c, rest.head? = some c → c ≠ '+' ∧ c ≠ '-') :
    splitSign (sign ++ rest) = (decide (sign = ['-']), rest) := by
  rcases hs with rfl | rfl | rfl
  · rw [List.nil_append]
    unfold splitSign
    split
    · exact absurd rfl (hr '-' rfl).2
    · exact absurd rfl (hr '+' rfl).1
    · rfl
  · rfl
  · rfl

theorem exists_sign (s : List Char) :
    ∃ sign, IsSign sign ∧ s = sign ++ (splitSign s).2 ∧ (splitSign s).1 = decide (sign = ['-']) := by
  unfold splitSign
  split
  · exact ⟨['-'], .inr (.inr rfl), rfl, rfl⟩
  · exact ⟨['+'], .inr (.inl rfl), rfl, rfl⟩
  · exact ⟨[], .inl rfl, rfl, rfl⟩

theorem splitFraction_append {fraction : Option (List Char)} {rest : List Char}
    (hf : AllDigits (fraction.getD []))
    (hr : ∀ c, rest.head? = some c → c.isDigit = false ∧ c ≠ '.') :
    splitFraction (fraction.elim [] ('.' :: ·) ++ rest) = (fraction.getD [], rest) := by
  cases fraction with
  | none =>
    rw [Option.elim_none, List.nil_append]
    unfold splitFraction
    split
    · exact absurd rfl (hr '.' rfl).2
    · rfl
  | some f =>
    obtain ⟨htake, hdrop⟩ := span_append hf fun c hc => (hr c hc).1
    rw [Option.getD_some] at htake hdrop
    rw [Option.elim_some, List.cons_append, splitFraction, htake, hdrop, Option.getD_some]

theorem exists_fraction (s : List Char) :
    ∃ fraction : Option (List Char), AllDigits (fraction.getD []) ∧
      s = fraction.elim [] ('.' :: ·) ++ (splitFraction s).2 ∧
        (splitFraction s).1 = fraction.getD [] := by
  unfold splitFraction
  split
  · next rest =>
    refine ⟨some (rest.takeWhile Char.isDigit), List.all_eq_true.mp List.all_takeWhile, ?_, rfl⟩
    rw [Option.elim_some, List.cons_append, List.takeWhile_append_dropWhile]
  · exact ⟨none, List.forall_mem_nil _, rfl, rfl⟩

theorem exponent?_text {e : ExponentSpelling} (h : e.WellFormed) :
    exponent? e.text = some e.value := by
  obtain ⟨hletter, hsign, hne, hdigits⟩ := h
  have hsplit : splitSign (e.sign ++ e.digits) = (decide (e.sign = ['-']), e.digits) := by
    refine splitSign_append hsign fun c hc => ?_
    have := hdigits c (List.mem_of_mem_head? hc)
    constructor <;> rintro rfl <;> cases this
  have hall : e.digits.all Char.isDigit = true := List.all_eq_true.mpr hdigits
  have hempty : e.digits.isEmpty = false := List.isEmpty_eq_false_iff.mpr hne
  rw [ExponentSpelling.text, List.cons_append, exponent?, if_pos (by simpa using hletter), hsplit]
  dsimp only
  rw [hall, hempty, natOfDigits_eq]
  simp [ExponentSpelling.value]

theorem exists_exponent {s : List Char} {x : Int} (h : exponent? s = some x) :
    ∃ exponent : Option ExponentSpelling, (∀ e, exponent = some e → e.WellFormed) ∧
      s = exponent.elim [] ExponentSpelling.text ∧ x = exponent.elim 0 ExponentSpelling.value := by
  unfold exponent? at h
  split at h
  · obtain rfl := Option.some.inj h
    exact ⟨none, nofun, rfl, rfl⟩
  · next c rest =>
    split at h
    · next hletter =>
      obtain ⟨sign, hsign, hrest, hnegative⟩ := exists_sign rest
      dsimp only at h
      split at h
      · next hdigits =>
        obtain rfl := Option.some.inj h
        rw [Bool.and_eq_true, Bool.not_eq_true', List.isEmpty_eq_false_iff, List.all_eq_true]
          at hdigits
        refine ⟨some ⟨c, sign, (splitSign rest).2⟩, ?_, ?_, ?_⟩
        · rintro e ⟨⟩
          exact ⟨by simpa using hletter, hsign, hdigits.1, hdigits.2⟩
        · rw [Option.elim_some, ExponentSpelling.text, List.cons_append, ← hrest]
        · rw [hnegative, natOfDigits_eq]
          simp [ExponentSpelling.value]
      · cases h
    · cases h

/-! ### The whole text -/

theorem head_exponent {exponent : Option ExponentSpelling}
    (h : ∀ e, exponent = some e → e.WellFormed) (c : Char)
    (hc : (exponent.elim [] ExponentSpelling.text).head? = some c) : c = 'e' ∨ c = 'E' := by
  cases exponent with
  | none => cases hc
  | some e =>
    obtain rfl := Option.some.inj hc
    exact (h e rfl).letter

theorem head_fraction {fraction : Option (List Char)} {rest : List Char}
    (h : ∀ c, rest.head? = some c → c = 'e' ∨ c = 'E') (c : Char)
    (hc : (fraction.elim [] ('.' :: ·) ++ rest).head? = some c) : c = '.' ∨ c = 'e' ∨ c = 'E' := by
  cases fraction with
  | none => exact .inr (h c hc)
  | some f => exact .inl (Option.some.inj hc).symm

theorem ofChars?_text {n : Spelling} (h : n.WellFormed) : ofChars? n.text = some n.literal := by
  have hexponent := head_exponent h.exponent
  have hfraction := @head_fraction n.fraction _ hexponent
  have hsign : splitSign n.text = (n.isNegative, _) := splitSign_append h.sign fun c hc => by
    cases hwhole : n.whole with
    | nil =>
      rw [hwhole, List.nil_append] at hc
      rcases hfraction c hc with rfl | rfl | rfl <;> decide
    | cons d whole =>
      rw [hwhole] at hc
      obtain rfl := Option.some.inj hc
      have := h.whole d (by rw [hwhole]; exact List.mem_cons_self)
      constructor <;> rintro rfl <;> cases this
  obtain ⟨htake, hdrop⟩ := span_append h.whole fun c hc => by
    rcases hfraction c hc with rfl | rfl | rfl <;> rfl
  have hpoint := splitFraction_append h.fraction fun c hc => by
    rcases hexponent c hc with rfl | rfl <;> decide
  have hrest : exponent? (n.exponent.elim [] ExponentSpelling.text) =
      some (n.exponent.elim 0 ExponentSpelling.value) := by
    cases hn : n.exponent with
    | none => rfl
    | some e => exact exponent?_text (h.exponent e hn)
  have hne : (n.whole ++ n.fractionDigits).isEmpty = false := by
    rw [List.isEmpty_eq_false_iff, ne_eq, List.append_eq_nil_iff, not_and_or]
    exact h.digits
  unfold ofChars?
  rw [hsign]
  dsimp only
  rw [htake, hdrop, hpoint]
  dsimp only
  rw [hrest, ← Spelling.fractionDigits, hne]
  rfl

theorem exists_spelling {s : List Char} {l : Literal} (h : ofChars? s = some l) :
    ∃ n : Spelling, n.WellFormed ∧ s = n.text ∧ l = n.literal := by
  obtain ⟨sign, hsign, hs, hnegative⟩ := exists_sign s
  unfold ofChars? at h
  dsimp only at h
  generalize splitSign s = split at hs hnegative h
  obtain ⟨negative, unsigned⟩ := split
  obtain ⟨fraction, hfraction, hunsigned, hdigits⟩ :=
    exists_fraction (unsigned.dropWhile Char.isDigit)
  split at h
  · cases h
  · next hne =>
    obtain ⟨x, hx, h⟩ := Option.bind_eq_some_iff.mp h
    obtain ⟨exponent, hexponent, hrest, rfl⟩ := exists_exponent hx
    refine ⟨⟨sign, unsigned.takeWhile Char.isDigit, fraction, exponent⟩, ⟨hsign,
      List.all_eq_true.mp List.all_takeWhile, hfraction, ?_, hexponent⟩, ?_, ?_⟩
    · rw [hdigits, List.isEmpty_iff, List.append_eq_nil_iff, not_and_or] at hne
      exact hne
    · rw [Spelling.text, ← hrest, ← hunsigned, List.takeWhile_append_dropWhile]
      exact hs
    · obtain rfl := Option.some.inj h
      dsimp only at hnegative
      rw [hdigits, hnegative]
      rfl

/-- A text is read as a number exactly if it is a well-formed spelling. -/
theorem ofChars?_eq_some_iff {s : List Char} {l : Literal} :
    ofChars? s = some l ↔ ∃ n : Spelling, n.WellFormed ∧ s = n.text ∧ l = n.literal := by
  refine ⟨exists_spelling, ?_⟩
  rintro ⟨n, hn, rfl, rfl⟩
  exact ofChars?_text hn

end Literal

namespace Spelling

theorem decimal_value (n : Spelling) :
    Decimal.value ⟨Literal.natOfDigits n.literal.digits, n.literal.exponent⟩ =
      (digitsValue n.whole + digitsValue n.fractionDigits / 10 ^ n.fractionDigits.length) *
        10 ^ n.exponent.elim 0 ExponentSpelling.value := by
  have hten : (10 : ℚ) ≠ 0 := by norm_num
  have hpow : (10 : ℚ) ^ n.fractionDigits.length ≠ 0 := pow_ne_zero _ hten
  rw [Decimal.value, literal, natOfDigits_eq, digitsValue_append, zpow_sub₀ hten, zpow_natCast]
  push_cast
  field_simp

/-- The double nearest to the number, with the sign of the number. -/
structure Denotes (n : Spelling) (x : Float) : Prop where
  isNearest : Binary64.IsNearest n.value x
  isNegative : Binary64.isNegative x = n.isNegative

theorem denotes_toFloat (n : Spelling) : n.Denotes n.literal.toFloat := by
  have h := Decimal.isNearest_toFloat n.isNegative
    ⟨Literal.natOfDigits n.literal.digits, n.literal.exponent⟩
  rw [decimal_value] at h
  exact ⟨h.1, h.2⟩

theorem Denotes.eq {n : Spelling} {x y : Float} (hx : n.Denotes x) (hy : n.Denotes y) : x = y :=
  hx.isNearest.eq_of_isNegative hy.isNearest (hx.isNegative.trans hy.isNegative.symm)

end Spelling

end ChartText
