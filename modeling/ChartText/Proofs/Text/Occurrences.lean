import Mathlib.Data.List.Basic

/-! # Occurrences of a pattern

`occurrences p s` counts the positions of a text at which a pattern stands. A character that is no
part of the pattern parts the text into two that are counted on their own
(`occurrences_append_cons`), and a text with too few of some character holds no occurrence
(`occurrences_eq_zero`). What is left are a name with a quoted value (`occurrences_quoted`) and a
pattern that begins with its only opening bracket (`occurrences_bracket`). -/

namespace ChartText.Text

/-- The number of positions at which a pattern stands in a text. -/
def occurrences (p : List Char) : List Char → Nat
  | [] => 0
  | c :: s => (if p <+: c :: s then 1 else 0) + occurrences p s

theorem isPrefix_append_cons_iff {p s : List Char} {d : Char} (hd : d ∉ p) (t : List Char) :
    p <+: s ++ d :: t ↔ p <+: s := by
  constructor
  · intro h
    have hs : s ++ [d] <+: s ++ d :: t := ⟨t, by simp⟩
    rcases Nat.lt_or_ge s.length p.length with hlt | hle
    · have hin : s ++ [d] <+: p := by
        refine List.prefix_of_prefix_length_le hs h ?_
        rw [List.length_append, List.length_singleton]
        exact hlt
      exact absurd (hin.subset (by simp)) hd
    · exact List.prefix_of_prefix_length_le h (List.prefix_append s _) hle
  · exact fun h => h.trans (List.prefix_append s _)

/-- Texts that are parted by the first `d` in each begin alike if their parts do. -/
theorem append_cons_isPrefix_iff {k l : List Char} {d : Char} (hk : d ∉ k) (hl : d ∉ l)
    (s t : List Char) : k ++ d :: s <+: l ++ d :: t ↔ k = l ∧ s <+: t := by
  constructor
  · intro h
    induction k generalizing l with
    | nil =>
      cases l with
      | nil => exact ⟨rfl, (List.cons_prefix_cons.mp h).2⟩
      | cons e l =>
        have hde : d = e := (List.cons_prefix_cons.mp h).1
        exact absurd (hde ▸ List.mem_cons_self) hl
    | cons c k ih =>
      cases l with
      | nil =>
        have hcd : c = d := (List.cons_prefix_cons.mp h).1
        exact absurd (hcd ▸ List.mem_cons_self) hk
      | cons e l =>
        obtain ⟨hce, hrest⟩ := List.cons_prefix_cons.mp h
        rw [List.mem_cons, not_or] at hk hl
        obtain ⟨hkl, hst⟩ := ih hk.2 hl.2 hrest
        exact ⟨by rw [hce, hkl], hst⟩
  · rintro ⟨rfl, u, rfl⟩
    exact ⟨u, by simp⟩

section
variable {p : List Char}

theorem occurrences_append_cons (hp : p ≠ []) {d : Char} (hd : d ∉ p) (s t : List Char) :
    occurrences p (s ++ d :: t) = occurrences p s + occurrences p t := by
  induction s with
  | nil =>
    have hno : ¬ p <+: d :: t := by
      have h := isPrefix_append_cons_iff (s := []) hd t
      rw [List.nil_append] at h
      rw [h, List.prefix_nil]
      exact hp
    show (if p <+: d :: t then 1 else 0) + occurrences p t = 0 + occurrences p t
    rw [if_neg hno]
  | cons c s ih =>
    have hiff : p <+: c :: (s ++ d :: t) ↔ p <+: c :: s :=
      isPrefix_append_cons_iff (s := c :: s) hd t
    rw [List.cons_append, occurrences, occurrences, ih, if_congr hiff rfl rfl, Nat.add_assoc]

theorem occurrences_eq_zero {d : Char} {s : List Char} (h : s.count d < p.count d) :
    occurrences p s = 0 := by
  induction s with
  | nil => rfl
  | cons c s ih =>
    have hno : ¬ p <+: c :: s := fun hbegins =>
      Nat.not_le_of_lt h (hbegins.sublist.count_le d)
    have hrest : s.count d < p.count d :=
      Nat.lt_of_le_of_lt ((List.sublist_cons_self c s).count_le d) h
    rw [occurrences, if_neg hno, ih hrest]

theorem occurrences_eq_zero_of_notMem {d : Char} {s : List Char} (hd : d ∈ p) (h : d ∉ s) :
    occurrences p s = 0 := by
  refine occurrences_eq_zero (d := d) ?_
  rw [List.count_eq_zero_of_not_mem h]
  exact List.count_pos_iff.mpr hd

end

/-! ### Quoted values -/

/-- A name, an equals sign and a value in double quotes. -/
def quoted (name value : List Char) : List Char :=
  name ++ '=' :: '"' :: value ++ ['"']

theorem quoted_isPrefix_iff {k l v w : List Char} (hk : '=' ∉ k) (hl : '=' ∉ l) (hv : '"' ∉ v)
    (hw : '"' ∉ w) : quoted k v <+: quoted l w ↔ k = l ∧ v = w := by
  have hvalue : v ++ ['"'] <+: w ++ ['"'] ↔ v = w := by
    rw [append_cons_isPrefix_iff hv hw]
    exact and_iff_left (List.prefix_refl [])
  have hquoted : ∀ n x : List Char, quoted n x = n ++ '=' :: ('"' :: (x ++ ['"'])) := by
    intro n x
    simp [quoted]
  rw [hquoted, hquoted, append_cons_isPrefix_iff hk hl, List.cons_prefix_cons, hvalue]
  exact and_congr_right fun _ => and_iff_right rfl

/-- A quoted value stands in another one with its name only if the values are the same and one name
ends in the other. -/
theorem occurrences_quoted {k l v w : List Char} (hk : '=' ∉ k ∧ '"' ∉ k) (hl : '=' ∉ l)
    (hv : '"' ∉ v) (hw : '"' ∉ w) :
    occurrences (quoted k v) (quoted l w) = if k <:+ l ∧ v = w then 1 else 0 := by
  induction l with
  | nil =>
    have hquotes : (quoted k v).count '"' = 2 := by
      simp [quoted, List.count_eq_zero_of_not_mem hk.2, List.count_eq_zero_of_not_mem hv]
    -- behind the equals sign there are as many quotes as in the pattern, but it starts with one
    have hstart : ¬ quoted k v <+: '"' :: (w ++ ['"']) := by
      rintro ⟨t, ht⟩
      cases k with
      | nil => simp [quoted] at ht
      | cons c k =>
        obtain rfl : c = '"' := by
          simp only [quoted, List.cons_append, List.cons.injEq] at ht
          exact ht.1
        exact hk.2 List.mem_cons_self
    have hrest : occurrences (quoted k v) (w ++ ['"']) = 0 := by
      refine occurrences_eq_zero (d := '"') ?_
      rw [hquotes, List.count_append, List.count_eq_zero_of_not_mem hw]
      decide
    have htext : quoted [] w = '=' :: '"' :: (w ++ ['"']) := by simp [quoted]
    have hiff := quoted_isPrefix_iff hk.1 hl hv hw
    rw [htext] at hiff ⊢
    rw [occurrences, occurrences, if_neg hstart, hrest, if_congr hiff rfl rfl,
      if_congr (and_congr_left' List.suffix_nil.symm) rfl rfl, Nat.add_zero]
  | cons c l ih =>
    rw [List.mem_cons, not_or] at hl
    have htext : quoted (c :: l) w = c :: quoted l w := rfl
    have hiff := quoted_isPrefix_iff hk.1 (l := c :: l) (by simp [hl]) hv hw
    rw [htext] at hiff ⊢
    rw [occurrences, ih hl.2, if_congr hiff rfl rfl]
    by_cases hvw : v = w
    · simp only [hvw, and_true]
      by_cases heq : k = c :: l
      · have hno : ¬ k <:+ l := by
          intro hsuffix
          have := hsuffix.length_le
          rw [heq, List.length_cons] at this
          omega
        rw [if_pos heq, if_neg hno, if_pos (heq ▸ List.suffix_refl _)]
      · have hiff : k <:+ c :: l ↔ k <:+ l := by
          rw [List.suffix_cons_iff]
          exact or_iff_right heq
        rw [if_neg heq, if_congr hiff rfl rfl, Nat.zero_add]
    · simp [hvw]

/-! ### Brackets -/

theorem occurrences_bracket {q s t : List Char} (hs : '<' ∉ s) (ht : '<' ∉ t) :
    occurrences ('<' :: q) (s ++ '<' :: t) = if q <+: t then 1 else 0 := by
  induction s with
  | nil =>
    have hrest : occurrences ('<' :: q) t = 0 :=
      occurrences_eq_zero_of_notMem List.mem_cons_self ht
    have hiff : '<' :: q <+: '<' :: t ↔ q <+: t := by
      rw [List.cons_prefix_cons]
      exact and_iff_right rfl
    rw [List.nil_append, occurrences, hrest, if_congr hiff rfl rfl, Nat.add_zero]
  | cons c s ih =>
    rw [List.mem_cons, not_or] at hs
    have hno : ¬ '<' :: q <+: c :: (s ++ '<' :: t) := fun h =>
      hs.1 (List.cons_prefix_cons.mp h).1
    rw [List.cons_append, occurrences, if_neg hno, ih hs.2, Nat.zero_add]

end ChartText.Text
