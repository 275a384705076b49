import ChartText.Text.Bytes

/-! # Parts of a text

A part of a text is given by the bytes where it begins and where it ends. There is one only if both
are places between characters (`slice?_eq_some_iff`). -/

namespace ChartText.Text

/-- A character of the text begins at this byte, or the text ends there. -/
def IsBoundary (text : List Char) (place : Nat) : Prop :=
  ∃ before after, text = before ++ after ∧ byteLength before = place

/-- The part of the text from byte `start` up to byte `stop`. -/
def IsPart (text : List Char) (start stop : Nat) (part : List Char) : Prop :=
  ∃ before after, text = before ++ part ++ after ∧ byteLength before = start ∧
    byteLength (before ++ part) = stop

/-- The text from byte `start` up to byte `stop`. There is none if a place is out of range, inside of
a character, or before the other one. -/
def slice? (text : List Char) (start stop : Nat) : Option (List Char) :=
  let (before, fromStart) := cutBytes start text
  let (part, _) := cutBytes (stop - start) fromStart
  if byteLength before = start ∧ start + byteLength part = stop then some part else none

theorem slice?_eq_some_iff {text part : List Char} {start stop : Nat} :
    slice? text start stop = some part ↔ IsPart text start stop part := by
  rw [slice?]
  constructor
  · intro h
    obtain ⟨⟨hstart, hstop⟩, hpart⟩ := Option.ite_none_right_eq_some.mp h
    rw [Option.some.injEq] at hpart
    rw [hpart] at hstop
    have htext := append_cutBytes start text
    have hrest := append_cutBytes (stop - start) (cutBytes start text).2
    rw [hpart] at hrest
    refine ⟨(cutBytes start text).1, (cutBytes (stop - start) (cutBytes start text).2).2, ?_,
      hstart, ?_⟩
    · rw [List.append_assoc, hrest, htext]
    · rw [byteLength_append, hstart, hstop]
  · rintro ⟨before, after, rfl, rfl, rfl⟩
    rw [List.append_assoc, cutBytes_append]
    dsimp only
    rw [byteLength_append, Nat.add_sub_cancel_left, cutBytes_append]
    simp

theorem byteLength_eq_zero_iff {s : List Char} : byteLength s = 0 ↔ s = [] := by
  cases s with
  | nil => simp
  | cons c s =>
    have := c.utf8Size_pos
    rw [byteLength_cons]
    exact ⟨fun h => by omega, nofun⟩

/-- Of two cuts of a text the one with fewer bytes before it is the first one. -/
theorem exists_between_of_byteLength_le {s t s' t' : List Char} (h : s ++ t = s' ++ t')
    (hle : byteLength s ≤ byteLength s') : ∃ middle, s' = s ++ middle ∧ t = middle ++ t' := by
  rcases List.append_eq_append_iff.mp h with ⟨middle, hs, ht⟩ | ⟨excess, rfl, rfl⟩
  · exact ⟨middle, hs, ht⟩
  · rw [byteLength_append] at hle
    obtain rfl : excess = [] := byteLength_eq_zero_iff.mp (by omega)
    exact ⟨[], by simp, by simp⟩

end ChartText.Text
