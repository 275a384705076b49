/-! # Lists

Where spans end and where the elements of `takeWhile` and `dropWhile` stand, what `mapM` gives for
options, and what joined lists hold. -/

namespace ChartText

variable {α β : Type}

theorem mapM_eq_some_iff {f : α → Option β} {s : List α} {t : List β} :
    s.mapM f = some t ↔ s.map f = t.map some := by
  induction s generalizing t with
  | nil => cases t <;> simp
  | cons a s ih =>
    cases t with
    | nil => simp [Option.bind_eq_some_iff]
    | cons b t => simp [Option.bind_eq_some_iff, ih]

theorem isSome_mapM {f : α → Option β} {s : List α} (h : ∀ a ∈ s, (f a).isSome = true) :
    ∃ t, s.mapM f = some t := by
  induction s with
  | nil => exact ⟨[], rfl⟩
  | cons a s ih =>
    obtain ⟨b, hb⟩ := Option.isSome_iff_exists.mp (h a (by simp))
    obtain ⟨t, ht⟩ := ih fun c hc => h c (by simp [hc])
    exact ⟨b :: t, by simp [hb, ht]⟩

theorem span_append {p : α → Bool} {s t : List α} (hs : ∀ a ∈ s, p a = true)
    (ht : ∀ a, t.head? = some a → p a = false) :
    (s ++ t).takeWhile p = s ∧ (s ++ t).dropWhile p = t := by
  rw [List.takeWhile_append_of_pos hs, List.dropWhile_append_of_pos hs]
  cases t with
  | nil => exact ⟨List.append_nil s, rfl⟩
  | cons a t => simp [ht a rfl]

/-- The elements before the first one that fails `p` are those with no such element up to them. -/
theorem mem_takeWhile_iff {p : α → Bool} {s : List α} {a : α} :
    a ∈ s.takeWhile p ↔ ∃ i : Nat, s[i]? = some a ∧ ∀ j ≤ i, ∀ b, s[j]? = some b → p b = true := by
  induction s with
  | nil => simp
  | cons c s ih =>
    rw [List.takeWhile_cons]
    split
    · next hc =>
      rw [List.mem_cons, ih]
      constructor
      · rintro (rfl | ⟨i, hi, hall⟩)
        · exact ⟨0, rfl, fun j hj b hb => by simp_all⟩
        · refine ⟨i + 1, hi, fun j hj b hb => ?_⟩
          cases j with
          | zero => simp_all
          | succ j => exact hall j (by omega) b hb
      · rintro ⟨i, hi, hall⟩
        cases i with
        | zero => exact .inl (by simpa using hi.symm)
        | succ i => exact .inr ⟨i, hi, fun j hj b hb => hall (j + 1) (by omega) b hb⟩
    · next hc =>
      simp only [List.not_mem_nil, false_iff, not_exists, not_and]
      exact fun i _ hall => hc (hall 0 (Nat.zero_le i) c rfl)

theorem mem_dropWhile_iff {p : α → Bool} {s : List α} {a : α} :
    a ∈ s.dropWhile p ↔ ∃ i : Nat, s[i]? = some a ∧ ∃ j ≤ i, ∃ b, s[j]? = some b ∧ p b = false := by
  induction s with
  | nil => simp
  | cons c s ih =>
    rw [List.dropWhile_cons]
    split
    · next hc =>
      rw [ih]
      constructor
      · rintro ⟨i, hi, j, hj, b, hb, hp⟩
        exact ⟨i + 1, hi, j + 1, by omega, b, hb, hp⟩
      · rintro ⟨i, hi, j, hj, b, hb, hp⟩
        cases j with
        | zero => simp_all
        | succ j =>
          cases i with
          | zero => omega
          | succ i => exact ⟨i, hi, j, by omega, b, hb, hp⟩
    · next hc =>
      rw [List.mem_iff_getElem?]
      constructor
      · rintro ⟨i, hi⟩
        exact ⟨i, hi, 0, Nat.zero_le i, c, rfl, by simpa using hc⟩
      · rintro ⟨i, hi, -⟩
        exact ⟨i, hi⟩

theorem notMem_intercalate {c : α} {separator : List α} {texts : List (List α)}
    (hs : c ∉ separator) (h : ∀ t ∈ texts, c ∉ t) : c ∉ separator.intercalate texts := by
  induction texts with
  | nil => simp
  | cons t texts ih =>
    have ht := h t List.mem_cons_self
    have hi := ih fun s hs => h s (List.mem_cons_of_mem t hs)
    cases texts with
    | nil => simpa using ht
    | cons u rest =>
      rw [List.intercalate_cons_cons]
      simp only [List.mem_append, not_or]
      exact ⟨⟨ht, hs⟩, hi⟩

end ChartText
