import ChartText.Drawing.Error
import ChartText.Proofs.Svg.Pieces
import ChartText.Proofs.Text.Printable

/-! # Messages of errors

The message of an error quotes nothing of a chart but a label (`RenderError.notMem_message`). The rest
of it is the name of a type, numbers and fixed texts, which are printable. -/

namespace ChartText
open Text (IsPrintable)

theorem Svg.IsCommands.isPrintable {s : String} (h : IsCommands s) : IsPrintable s := by
  have hcontrol : ∀ n < 0x20, isCommandChar (Char.ofNat n) = false := by decide
  refine .of_forall fun c hc => ?_
  simp only [Text.isControl, decide_eq_false_iff_not]
  intro hlt
  have hnot := hcontrol c.toNat hlt
  rw [Char.ofNat_toNat, h c hc] at hnot
  cases hnot

theorem isPrintable_plainNumber (x : Float) : IsPrintable (plainNumber x) :=
  (Svg.isCommands_plainNumber x).isPrintable

theorem ChartType.isPrintable_name (type : ChartType) : IsPrintable type.name := by
  cases type <;> decide

theorem RenderError.notMem_message {e : RenderError} {c : Char} (hc : Text.isControl c = true)
    (h : ∀ type label value, e = .negativeSlice type label value → c ∉ label.toList) :
    c ∉ e.message.toList := by
  cases e with
  | noData type => exact (type.isPrintable_name.append (by decide)).notMem hc
  | mismatchedLengths type labels values =>
    have hlabels := (type.isPrintable_name.append (t := " chart has ") (by decide)).append
      (Text.isPrintable_toString labels)
    exact (((hlabels.append (by decide)).append (Text.isPrintable_toString values)).append
      (by decide)).notMem hc
  | nonPositiveScale type max =>
    exact (((IsPrintable.append (by decide) type.isPrintable_name).append (by decide)).append
      (isPrintable_plainNumber max)).notMem hc
  | nonPositiveTotal type total =>
    exact (((IsPrintable.append (by decide) type.isPrintable_name).append (by decide)).append
      (isPrintable_plainNumber total)).notMem hc
  | negativeSlice type label value =>
    have hslice := type.isPrintable_name.append (t := " slice \"") (by decide)
    have hvalue := IsPrintable.append (s := "\" has negative value ") (by decide)
      (isPrintable_plainNumber value)
    have hlabel := Text.notMem_append (hslice.notMem hc) (h type label value rfl)
    change c ∉ (type.name ++ " slice \"" ++ label ++ "\" has negative value " ++
      plainNumber value).toList
    rw [String.append_assoc]
    exact Text.notMem_append hlabel (hvalue.notMem hc)
  | canvasTooSmall k =>
    have hsize := ((IsPrintable.append (s := "Canvas ") (by decide)
      (isPrintable_plainNumber k.width)).append (t := "x") (by decide)).append
        (isPrintable_plainNumber k.height)
    exact (((hsize.append (by decide)).append (isPrintable_plainNumber k.padding)).append
      (by decide)).notMem hc

end ChartText
