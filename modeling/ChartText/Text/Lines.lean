/-! # Cutting a text into pieces

`cutAt p` cuts at every element that satisfies `p` and drops it, so there is always one piece
more than there are cuts. `lines` are the lines of a text, each without its line ending. -/

namespace ChartText.Text

variable {α : Type}

/-- The pieces between the elements that satisfy `p`. -/
def cutAt (p : α → Bool) (s : List α) : List (List α) :=
  s.foldr (fun c pieces => if p c then [] :: pieces else
    match pieces with
    | [] => [[c]]
    | piece :: rest => (c :: piece) :: rest) [[]]

@[simp] theorem cutAt_nil (p : α → Bool) : cutAt p [] = [[]] := rfl

theorem cutAt_ne_nil (p : α → Bool) (s : List α) : cutAt p s ≠ [] := by
  cases s with
  | nil => simp
  | cons c s =>
    unfold cutAt
    rw [List.foldr_cons]
    split
    · simp
    · split <;> simp

theorem cutAt_cons (p : α → Bool) (c : α) (s : List α) :
    cutAt p (c :: s) = if p c then [] :: cutAt p s else (cutAt p s).modifyHead (c :: ·) := by
  have hne := cutAt_ne_nil p s
  change (if p c then [] :: cutAt p s else
    match cutAt p s with
    | [] => [[c]]
    | piece :: rest => (c :: piece) :: rest) = _
  split
  · rfl
  · obtain ⟨piece, rest, h⟩ := List.exists_cons_of_ne_nil hne
    rw [h, List.modifyHead_cons]

theorem cutAt_eq_splitOnP (p : α → Bool) (s : List α) : cutAt p s = s.splitOnP p := by
  induction s with
  | nil => simp
  | cons c s ih => rw [cutAt_cons, List.splitOnP_cons_eq_if_modifyHead, ih]

/-- The pieces hold what is left between the cuts. -/
theorem of_mem_cutAt {p : α → Bool} {s piece : List α} {c : α} (h : piece ∈ cutAt p s)
    (hc : c ∈ piece) : c ∈ s ∧ p c = false := by
  induction s generalizing piece with
  | nil => simp_all
  | cons d s ih =>
    rw [cutAt_cons] at h
    split at h
    · rcases List.mem_cons.mp h with rfl | h
      · simp at hc
      · exact ⟨List.mem_cons_of_mem d (ih h hc).1, (ih h hc).2⟩
    · next hd =>
      obtain ⟨first, rest, hr⟩ := List.exists_cons_of_ne_nil (cutAt_ne_nil p s)
      rw [hr, List.modifyHead_cons] at h
      rcases List.mem_cons.mp h with rfl | h
      · rcases List.mem_cons.mp hc with rfl | hc
        · exact ⟨List.mem_cons_self, by simpa using hd⟩
        · have := ih (hr ▸ List.mem_cons_self) hc
          exact ⟨List.mem_cons_of_mem d this.1, this.2⟩
      · have := ih (hr ▸ List.mem_cons_of_mem first h) hc
        exact ⟨List.mem_cons_of_mem d this.1, this.2⟩

/-- The first piece ends where the first cut is. -/
theorem cutAt_append_cons {p : α → Bool} {s : List α} {c : α} (hs : ∀ d ∈ s, p d = false)
    (hc : p c = true) (t : List α) : cutAt p (s ++ c :: t) = s :: cutAt p t := by
  rw [cutAt_eq_splitOnP, List.splitOnP_append_cons_of_forall_mem hs c hc, ← cutAt_eq_splitOnP]

theorem cutAt_eq_singleton {p : α → Bool} {s : List α} (hs : ∀ d ∈ s, p d = false) :
    cutAt p s = [s] := by
  rw [cutAt_eq_splitOnP, List.splitOnP_eq_singleton hs]

def cutLines (s : List Char) : List (List Char) :=
  cutAt (· == '\n') s

/-- A line that ends in a line feed may have a carriage return before it. -/
def dropCarriageReturn (s : List Char) : List Char :=
  if s.getLast? == some '\r' then s.dropLast else s

/-- The lines of a text, without their line endings (a line feed, with or without a carriage
return before it). What follows the last line feed is a line unless it is empty. -/
def lines (s : List Char) : List (List Char) :=
  let pieces := cutLines s
  let last := pieces.getLastD []
  pieces.dropLast.map dropCarriageReturn ++ (if last.isEmpty then [] else [last])

/-- What stands before the first element that satisfies `p`, and what stands after it. -/
def splitOnce? (p : α → Bool) (s : List α) : Option (List α × List α) :=
  match s.dropWhile (!p ·) with
  | [] => none
  | _ :: after => some (s.takeWhile (!p ·), after)

theorem splitOnce?_append {p : α → Bool} {before : List α} {c : α} (after : List α)
    (hb : ∀ d ∈ before, p d = false) (hc : p c = true) :
    splitOnce? p (before ++ c :: after) = some (before, after) := by
  have hd : (before ++ c :: after).dropWhile (!p ·) = c :: after := by
    rw [List.dropWhile_append_of_pos (by simpa using hb)]
    simp [hc]
  have ht : (before ++ c :: after).takeWhile (!p ·) = before := by
    rw [List.takeWhile_append_of_pos (by simpa using hb)]
    simp [hc]
  simp only [splitOnce?, hd, ht]

theorem splitOnce?_eq_some {p : α → Bool} {s before after : List α}
    (h : splitOnce? p s = some (before, after)) :
    ∃ c, s = before ++ c :: after ∧ p c = true ∧ ∀ d ∈ before, p d = false := by
  unfold splitOnce? at h
  split at h
  · simp at h
  · next c rest hd =>
    simp only [Option.some.injEq, Prod.mk.injEq] at h
    obtain ⟨rfl, rfl⟩ := h
    refine ⟨c, ?_, ?_, fun d hd => ?_⟩
    · rw [← hd, List.takeWhile_append_dropWhile]
    · have := List.head?_dropWhile_not (!p ·) s
      rw [hd] at this
      simpa using this
    · have := List.all_eq_true.mp (List.all_takeWhile (p := (!p ·)) (l := s)) d hd
      simpa using this

end ChartText.Text
