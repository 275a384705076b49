/-! # White space

`isBlank` is Unicode's `White_Space` property; `trim` removes blank characters from both ends of a
text. -/

namespace ChartText.Text

/-- The characters with the `White_Space` property. -/
def isBlank (c : Char) : Bool :=
  let n := c.toNat
  (0x09 ≤ n && n ≤ 0x0D) || n == 0x20 || n == 0x85 || n == 0xA0 || n == 0x1680 ||
    (0x2000 ≤ n && n ≤ 0x200A) || n == 0x2028 || n == 0x2029 || n == 0x202F || n == 0x205F ||
    n == 0x3000

def trimStart (s : List Char) : List Char :=
  s.dropWhile isBlank

def trimEnd (s : List Char) : List Char :=
  (s.reverse.dropWhile isBlank).reverse

def trim (s : List Char) : List Char :=
  trimEnd (trimStart s)

def isAllBlank (s : List Char) : Bool :=
  s.all isBlank

/-- The first run of characters that are not blank, if there is one. -/
def firstWord? (s : List Char) : Option (List Char) :=
  match trimStart s with
  | [] => none
  | c :: cs => some ((c :: cs).takeWhile (!isBlank ·))

theorem isBlank_head_dropWhile {s rest : List Char} {c : Char}
    (h : s.dropWhile isBlank = c :: rest) : isBlank c = false := by
  induction s with
  | nil => simp at h
  | cons d s ih =>
    rw [List.dropWhile_cons] at h
    split at h
    · exact ih h
    · next hd =>
      cases h
      simpa using hd

theorem isBlank_of_getLast?_trim {s : List Char} {c : Char} (h : (trim s).getLast? = some c) :
    isBlank c = false := by
  unfold trim trimEnd at h
  rw [List.getLast?_reverse] at h
  cases hr : (trimStart s).reverse.dropWhile isBlank with
  | nil => simp [hr] at h
  | cons d rest =>
    simp only [hr, List.head?_cons, Option.some.injEq] at h
    exact h ▸ isBlank_head_dropWhile hr

/-! ### Trimmed texts -/

/-- The text neither begins nor ends with a blank. -/
structure IsTrimmed (s : List Char) : Prop where
  head : ∀ c, s.head? = some c → isBlank c = false
  last : ∀ c, s.getLast? = some c → isBlank c = false

theorem trimEnd_prefix_self (s : List Char) : trimEnd s <+: s := by
  have h := List.dropWhile_suffix (l := s.reverse) isBlank
  rw [← List.reverse_prefix, List.reverse_reverse] at h
  exact h

theorem trim_infix_self (s : List Char) : trim s <:+: s :=
  (trimEnd_prefix_self _).isInfix.trans (List.dropWhile_suffix isBlank).isInfix

theorem mem_of_mem_trim {c : Char} {s : List Char} (h : c ∈ trim s) : c ∈ s :=
  (trim_infix_self s).subset h

theorem isTrimmed_trim (s : List Char) : IsTrimmed (trim s) where
  head c h := by
    obtain ⟨rest, hr⟩ := trimEnd_prefix_self (trimStart s)
    change (trimEnd (trimStart s)).head? = some c at h
    obtain ⟨tail, ht⟩ := List.head?_eq_some_iff.mp h
    rw [ht, List.cons_append] at hr
    exact isBlank_head_dropWhile hr.symm
  last c h := isBlank_of_getLast?_trim h

theorem trimStart_eq_self {s : List Char} (h : ∀ c, s.head? = some c → isBlank c = false) :
    trimStart s = s := by
  cases s with
  | nil => rfl
  | cons c s => simp [trimStart, h c rfl]

theorem trimEnd_eq_self {s : List Char} (h : ∀ c, s.getLast? = some c → isBlank c = false) :
    trimEnd s = s := by
  have hr := trimStart_eq_self (s := s.reverse) (by simpa using h)
  unfold trimStart at hr
  rw [trimEnd, hr, List.reverse_reverse]

theorem IsTrimmed.trim_eq {s : List Char} (h : IsTrimmed s) : trim s = s := by
  rw [trim, trimStart_eq_self h.head, trimEnd_eq_self h.last]

@[simp] theorem trim_trim (s : List Char) : trim (trim s) = trim s :=
  (isTrimmed_trim s).trim_eq

@[simp] theorem trim_nil : trim [] = [] := rfl

/-- A blank before a text does not matter. -/
theorem trim_cons_blank {c : Char} (hc : isBlank c = true) (s : List Char) :
    trim (c :: s) = trim s := by
  simp [trim, trimStart, hc]

theorem isTrimmed_of_no_blank {s : List Char} (h : s.any isBlank = false) : IsTrimmed s where
  head c hc := by simpa using List.any_eq_false.mp h c (List.mem_of_mem_head? hc)
  last c hc := by simpa using List.any_eq_false.mp h c (List.mem_of_getLast? hc)

/-- Two trimmed texts stay trimmed with anything between them. -/
theorem IsTrimmed.append {s t : List Char} (hs : IsTrimmed s) (hs' : s ≠ []) (ht : IsTrimmed t)
    (ht' : t ≠ []) (middle : List Char) : IsTrimmed (s ++ middle ++ t) where
  head c hc := by
    obtain ⟨a, s, rfl⟩ := List.exists_cons_of_ne_nil hs'
    exact hs.head c hc
  last c hc := by
    obtain ⟨init, b, rfl⟩ := List.eq_nil_or_concat t |>.resolve_left ht'
    exact ht.last c (by simpa using hc)

end ChartText.Text
