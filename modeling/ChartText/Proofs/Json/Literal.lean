import ChartText.Proofs.Json.RoundTrip
import ChartText.Proofs.Lists
import ChartText.Proofs.Number.Finite
import ChartText.Proofs.Number.Shortest

/-! # Numbers as they are written

The text of a finite double is a JSON number (`isNumber_format`): a whole part that begins with a
zero only if it is one, and then a fraction, or an exponent, or both. -/

namespace ChartText.Json
open Binary64

/-! ### The parts of a number -/

/-- Digits, at least one. -/
structure IsDigits (ds : List Char) : Prop where
  ne_nil : ds ≠ []
  isDigit : ∀ d ∈ ds, d.isDigit = true

theorem IsDigits.of_all {ds : List Char} (hne : ds ≠ []) (h : ds.all Char.isDigit = true) :
    IsDigits ds :=
  ⟨hne, List.all_eq_true.mp h⟩

/-- The text does not go on with a digit. -/
def EndsDigits (s : List Char) : Prop :=
  ∀ c, s.head? = some c → c.isDigit = false

theorem spanDigits_append {ds s : List Char} (hd : ∀ d ∈ ds, d.isDigit = true)
    (hs : EndsDigits s) : spanDigits (ds ++ s) = (ds, s) := by
  obtain ⟨htake, hdrop⟩ := span_append hd hs
  rw [spanDigits, htake, hdrop]

/-- A zero, or digits that begin with another one. -/
inductive IsWhole : List Char → Prop
  | zero : IsWhole ['0']
  | digits {d : Char} {ds : List Char} (hd : IsDigits (d :: ds)) (h0 : d ≠ '0') : IsWhole (d :: ds)

theorem spanWhole_append {w s : List Char} (hw : IsWhole w) (hs : EndsDigits s) :
    spanWhole (w ++ s) = (w, s) := by
  cases hw with
  | zero => rfl
  | @digits d ds hd h0 =>
    rw [List.cons_append, spanWhole]
    · exact spanDigits_append hd.isDigit hs
    · rintro rest heq
      exact h0 (List.cons.inj heq).1

/-- Nothing, or a point and digits. -/
inductive IsFraction : List Char → Prop
  | nil : IsFraction []
  | point {ds : List Char} (hd : IsDigits ds) : IsFraction ('.' :: ds)

theorem spanFraction_append {f s : List Char} (hf : IsFraction f) (hs : EndsDigits s)
    (hpoint : ∀ c, s.head? = some c → c ≠ '.') : spanFraction (f ++ s) = (f, s) := by
  cases hf with
  | nil =>
    rw [List.nil_append]
    unfold spanFraction
    split
    · exact absurd rfl (hpoint '.' rfl)
    · rfl
  | @point ds hd =>
    obtain ⟨d, ds, rfl⟩ := List.exists_cons_of_ne_nil hd.ne_nil
    rw [List.cons_append, spanFraction, spanDigits_append hd.isDigit hs]

/-- Nothing, or an exponent with a sign. -/
inductive IsExponent : List Char → Prop
  | nil : IsExponent []
  | signed {sign : Char} {ds : List Char} (hsign : sign = '+' ∨ sign = '-') (hd : IsDigits ds) :
    IsExponent ('e' :: sign :: ds)

theorem spanExponent_append {x s : List Char} (hx : IsExponent x) (hs : EndsDigits s)
    (hletter : ∀ c, s.head? = some c → c ≠ 'e' ∧ c ≠ 'E') : spanExponent (x ++ s) = (x, s) := by
  cases hx with
  | nil =>
    cases s with
    | nil => rfl
    | cons c s => simp [spanExponent, hletter c rfl]
  | @signed sign ds hsign hd =>
    obtain ⟨d, ds, rfl⟩ := List.exists_cons_of_ne_nil hd.ne_nil
    have hspan := spanDigits_append hd.isDigit hs
    rw [List.cons_append] at hspan
    rcases hsign with rfl | rfl <;> simp [spanExponent, hspan]

/-! ### Whole numbers -/

theorem IsWhole.head {w : List Char} (hw : IsWhole w) :
    ∃ d rest, w = d :: rest ∧ d.isDigit = true := by
  cases hw with
  | zero => exact ⟨'0', [], rfl, rfl⟩
  | digits hd => exact ⟨_, _, rfl, hd.isDigit _ List.mem_cons_self⟩

/-- A text that begins with a digit or a minus sign can only be a number. -/
theorem token?_of_head {c : Char} (hc : c.isDigit = true ∨ c = '-') (s : List Char) :
    token? (c :: s) = (number? (c :: s)).map fun (literal, after) => (.number literal, after) := by
  unfold token?
  split <;> simp_all

theorem number?_append {sign w f x rest : List Char} (hsign : sign = [] ∨ sign = ['-'])
    (hw : IsWhole w) (hf : IsFraction f) (hx : IsExponent x) (hr : EndsValue rest) :
    number? (sign ++ (w ++ (f ++ (x ++ rest)))) = some (sign ++ w ++ f ++ x, rest) := by
  -- What stands behind a part begins with a point, an `e`, or what can stand behind a value.
  have hrest : ∀ c, rest.head? = some c → c.isDigit = false ∧ c ≠ '.' ∧ c ≠ 'e' ∧ c ≠ 'E' := by
    intro c hc
    rcases hr c hc with rfl | rfl <;> decide
  have hexp : ∀ c, (x ++ rest).head? = some c → c.isDigit = false ∧ c ≠ '.' := by
    intro c hc
    cases hx with
    | nil => exact ⟨(hrest c hc).1, (hrest c hc).2.1⟩
    | signed =>
      cases hc
      decide
  have hfrac : ∀ c, (f ++ (x ++ rest)).head? = some c → c.isDigit = false := by
    intro c hc
    cases hf with
    | nil => exact (hexp c hc).1
    | point =>
      cases hc
      decide
  have hwhole := spanWhole_append hw hfrac
  have hfraction := spanFraction_append hf (fun c hc => (hexp c hc).1) fun c hc => (hexp c hc).2
  have hexponent := spanExponent_append hx (fun c hc => (hrest c hc).1) fun c hc => (hrest c hc).2.2
  obtain ⟨d, ds, rfl, hd⟩ := hw.head
  have hminus : d ≠ '-' := by
    rintro rfl
    cases hd
  rw [List.cons_append] at hwhole
  rcases hsign with rfl | rfl
  · simp [number?, hminus, hwhole, hfraction, hexponent]
  · simp [number?, hwhole, hfraction, hexponent]

theorem isNumber_of_parts {sign w f x : List Char} (hsign : sign = [] ∨ sign = ['-'])
    (hw : IsWhole w) (hf : IsFraction f) (hx : IsExponent x) : IsNumber (sign ++ w ++ f ++ x) := by
  obtain ⟨d, ds, rfl, hd⟩ := hw.head
  refine ⟨by simp, fun rest hr => ?_⟩
  have hnumber := number?_append hsign hw hf hx hr
  rcases hsign with rfl | rfl
  · simp only [List.nil_append, List.cons_append, List.append_assoc] at hnumber ⊢
    rw [token?_of_head (.inl hd), hnumber, Option.map_some]
  · simp only [List.nil_append, List.cons_append, List.append_assoc] at hnumber ⊢
    rw [token?_of_head (.inr rfl), hnumber, Option.map_some]

/-! ### Decimals -/

theorem isDigits_toDigits (n : Nat) : IsDigits (Nat.toDigits 10 n) :=
  ⟨Nat.toDigits_ne_nil, fun _ hd => Nat.isDigit_of_mem_toDigits (by decide) (by decide) hd⟩

theorem head_toDigits {n : Nat} (hn : 0 < n) : ∃ d ds, Nat.toDigits 10 n = d :: ds ∧ d ≠ '0' := by
  induction n using Nat.strongRecOn with
  | ind n ih =>
    rw [Nat.toDigits_eq_if (by decide)]
    split
    · exact ⟨Nat.digitChar n, [], rfl, by simpa using Nat.ne_of_gt hn⟩
    · next hlt =>
      obtain ⟨d, ds, hd, h0⟩ := ih (n / 10) (by omega) (by omega)
      exact ⟨d, ds ++ [Nat.digitChar (n % 10)], by rw [hd, List.cons_append], h0⟩

theorem IsDigits.append {ds es : List Char} (hd : IsDigits ds)
    (he : ∀ e ∈ es, e.isDigit = true) : IsDigits (ds ++ es) := by
  refine ⟨by simp [hd.ne_nil], fun c hc => ?_⟩
  rcases List.mem_append.mp hc with hc | hc
  · exact hd.isDigit c hc
  · exact he c hc

theorem isDigit_of_mem_zeros {n : Nat} : ∀ d ∈ NumberStyle.zeros n, d.isDigit = true := by
  intro d hd
  rw [(List.mem_replicate.mp hd).2]
  rfl

theorem parts_positional {d : Char} {ds : List Char} (hd : IsDigits (d :: ds)) (h0 : d ≠ '0')
    (point : Int) : ∃ w f, NumberStyle.json.positional (d :: ds) point = w ++ f ∧
      IsWhole w ∧ IsFraction f := by
  unfold NumberStyle.positional
  split
  · refine ⟨['0'], _, rfl, .zero, .point ⟨by simp, fun c hc => ?_⟩⟩
    rcases List.mem_append.mp hc with hc | hc
    · exact isDigit_of_mem_zeros c hc
    · exact hd.isDigit c hc
  · split
    · exact ⟨_, ['.', '0'], rfl, .digits (hd.append isDigit_of_mem_zeros) h0,
        .point (.of_all (by simp) rfl)⟩
    · next hpoint hshort =>
      obtain ⟨k, hk⟩ : ∃ k, point.toNat = k + 1 := ⟨point.toNat - 1, by omega⟩
      rw [hk, List.take_succ_cons, List.drop_succ_cons]
      rw [hk, List.length_cons] at hshort
      refine ⟨_, _, rfl, .digits ⟨by simp, fun c hc => ?_⟩ h0, .point ⟨?_, fun c hc => ?_⟩⟩
      · exact hd.isDigit c (List.mem_of_mem_take (i := k + 1) (by simpa using hc))
      · simp only [ne_eq, List.drop_eq_nil_iff]
        omega
      · exact hd.isDigit c (List.mem_cons_of_mem d (List.mem_of_mem_drop hc))

theorem parts_scientific {d : Char} {ds : List Char} (hd : IsDigits (d :: ds)) (point : Int) :
    ∃ w f x, NumberStyle.scientific (d :: ds) point = w ++ f ++ x ∧
      IsWhole w ∧ IsFraction f ∧ IsExponent x := by
  refine ⟨[d], if ds.isEmpty then [] else '.' :: ds, _, rfl, ?_, ?_, .signed ?_ (isDigits_toDigits _)⟩
  · by_cases h0 : d = '0'
    · exact h0 ▸ .zero
    · exact .digits ⟨by simp, by simpa using hd.isDigit d List.mem_cons_self⟩ h0
  · split
    · exact .nil
    · next hne =>
      exact .point ⟨by simpa using hne, fun c hc => hd.isDigit c (List.mem_cons_of_mem d hc)⟩
  · split
    · exact .inr rfl
    · exact .inl rfl

/-! ### Doubles -/

/-- The shortest decimal of a double that is not a zero, as it is written. -/
theorem parts_shortest {x : Float} (hx : 0 < significand x) :
    ∃ w f e, NumberStyle.json.decimal (Decimal.shortest .even x) = w ++ f ++ e ∧
      IsWhole w ∧ IsFraction f ∧ IsExponent e := by
  unfold NumberStyle.decimal
  dsimp only
  rcases Decimal.coefficient_shortest hx .even with hpos | hnone
  · obtain ⟨d, ds, hd, h0⟩ := head_toDigits hpos
    have hdigits : IsDigits (d :: ds) := hd ▸ isDigits_toDigits _
    rw [hd]
    split
    · obtain ⟨w, f, hp, hw, hf⟩ := parts_positional hdigits h0 _
      exact ⟨w, f, [], by rw [hp, List.append_nil], hw, hf, .nil⟩
    · exact parts_scientific hdigits _
  · rw [hnone]
    exact parts_scientific (.of_all (by simp) rfl) 19

theorem isNumber_format {x : Float} (hx : x.isFinite = true) :
    IsNumber (NumberStyle.json.format x).toList := by
  obtain ⟨hnan, hinf⟩ := isNaN_isInf_of_isFinite hx
  have hsign : ∀ b : Bool, (if b then ['-'] else []) = [] ∨ (if b then ['-'] else []) = ['-'] := by
    decide
  rw [NumberStyle.format, hnan, hinf]
  simp only [Bool.false_eq_true, if_false, String.toList_ofList]
  by_cases hzero : (x == 0.0) = true
  · rw [if_pos hzero]
    have hpoint : IsFraction ['.', '0'] := .point (.of_all (by simp) rfl)
    have hnumber := isNumber_of_parts (hsign (isNegative x)) .zero hpoint .nil
    simpa [NumberStyle.json] using hnumber
  · rw [if_neg hzero]
    obtain ⟨w, f, e, hp, hw, hf, he⟩ := parts_shortest (significand_pos (by simpa using hzero))
    have hnumber := isNumber_of_parts (hsign (isNegative x)) hw hf he
    rw [List.append_assoc, List.append_assoc, ← List.append_assoc w, ← hp] at hnumber
    exact hnumber

end ChartText.Json
