/-! # Places in a text, counted in bytes

Offsets into a text count the bytes of its UTF-8 form. -/

namespace ChartText.Text

def byteLength (s : List Char) : Nat :=
  s.foldr (fun c n => c.utf8Size + n) 0

@[simp] theorem byteLength_nil : byteLength [] = 0 := rfl

@[simp] theorem byteLength_cons (c : Char) (s : List Char) :
    byteLength (c :: s) = c.utf8Size + byteLength s := rfl

@[simp] theorem byteLength_append (s t : List Char) :
    byteLength (s ++ t) = byteLength s + byteLength t := by
  induction s with
  | nil => simp
  | cons c s ih => simp [ih, Nat.add_assoc]

/-- The characters in the first `n` bytes, and the rest. A character that the cut goes through
belongs to the rest. -/
def cutBytes (n : Nat) : List Char → List Char × List Char
  | [] => ([], [])
  | c :: s =>
    if c.utf8Size ≤ n then
      let (before, after) := cutBytes (n - c.utf8Size) s
      (c :: before, after)
    else ([], c :: s)

/-- A cut at the end of the first part of a text gives back the two parts. -/
theorem cutBytes_append (s t : List Char) : cutBytes (byteLength s) (s ++ t) = (s, t) := by
  induction s with
  | nil =>
    cases t with
    | nil => rfl
    | cons c t => simp [cutBytes, Nat.not_le.mpr c.utf8Size_pos]
  | cons c s ih => simp [cutBytes, ih]

theorem append_cutBytes (n : Nat) (s : List Char) : (cutBytes n s).1 ++ (cutBytes n s).2 = s := by
  induction s generalizing n with
  | nil => rfl
  | cons c s ih =>
    unfold cutBytes
    split
    · simpa using ih _
    · rfl

end ChartText.Text
