/-! # Letter case

Keywords are compared without regard to the case of the ASCII letters; every other character stands
for itself alone. -/

namespace ChartText.Text

/-- Only `A` to `Z` change. -/
def lower (s : List Char) : List Char :=
  s.map Char.toLower

def sameIgnoringCase (s t : List Char) : Bool :=
  lower s == lower t

theorem sameIgnoringCase_refl (s : List Char) : sameIgnoringCase s s = true := by
  simp [sameIgnoringCase]

end ChartText.Text
