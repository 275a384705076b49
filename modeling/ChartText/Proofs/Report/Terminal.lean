import ChartText.Proofs.Text.Filled
import ChartText.Report

/-! # What a terminal shows

A terminal takes a text apart into characters that it shows and sequences that set how they look
(`signs`). `unstyled` is what it shows, and `leftSet` are the attributes that are still set at the
end. A text that is `Styled` is a plain one with sequences put in: it shows what the plain text
shows, and does so line by line. -/

namespace ChartText.Report
open Text

/-- The character that begins a sequence. -/
def esc : Char := '\x1b'

/-- A character that is shown, or the parameters of a sequence. -/
inductive Sign
  | shown (c : Char)
  | sequence (parameters : List Char)
deriving Repr, DecidableEq

/-- A sequence is an escape character, an opening bracket and everything up to the next `m`. In one
of them, what has been read of its parameters is pending. -/
def signsFrom : (pending : Option (List Char)) → List Char → List Sign
  | _, [] => []
  | some parameters, c :: s =>
    if c == 'm' then .sequence parameters :: signsFrom none s
    else signsFrom (some (parameters ++ [c])) s
  | none, '\x1b' :: '[' :: s => signsFrom (some []) s
  | none, c :: s => .shown c :: signsFrom none s

def signs (s : List Char) : List Sign :=
  signsFrom none s

def Sign.shown? : Sign → Option Char
  | shown c => some c
  | sequence _ => none

/-- The text without its sequences. -/
def unstyled (s : List Char) : List Char :=
  (signs s).filterMap Sign.shown?

/-- The attributes that are set after a sign. The sequence with a zero resets those before it. -/
def Sign.apply (attributes : List (List Char)) : Sign → List (List Char)
  | shown _ => attributes
  | sequence parameters => if parameters == ['0'] then [] else attributes ++ [parameters]

/-- The attributes that are set at the end of a text, if none is at its beginning. -/
def leftSet (s : List Char) : List (List Char) :=
  (signs s).foldl Sign.apply []

/-! ### Reading signs -/

theorem signs_cons {c : Char} (hc : c ≠ esc) (s : List Char) :
    signs (c :: s) = .shown c :: signs s := by
  rw [signs, signsFrom]
  · rfl
  · rintro rest rfl
    exact absurd rfl hc

theorem signs_append {s : List Char} (hs : esc ∉ s) (t : List Char) :
    signs (s ++ t) = s.map .shown ++ signs t := by
  induction s with
  | nil => rfl
  | cons c s ih =>
    rw [List.mem_cons, not_or] at hs
    rw [List.cons_append, signs_cons (Ne.symm hs.1), ih hs.2]
    rfl

/-- The characters of a sequence. -/
def sequenceOf (parameters : List Char) : List Char :=
  esc :: '[' :: parameters ++ ['m']

theorem signsFrom_some {parameters : List Char} (h : 'm' ∉ parameters) (read s : List Char) :
    signsFrom (some read) (parameters ++ 'm' :: s) = .sequence (read ++ parameters) :: signs s := by
  induction parameters generalizing read with
  | nil =>
    rw [List.append_nil]
    rfl
  | cons c parameters ih =>
    rw [List.mem_cons, not_or] at h
    rw [List.cons_append, signsFrom, if_neg (by simpa using Ne.symm h.1), ih h.2]
    simp

theorem signs_sequenceOf {parameters : List Char} (h : 'm' ∉ parameters) (s : List Char) :
    signs (sequenceOf parameters ++ s) = .sequence parameters :: signs s := by
  have hread := signsFrom_some h [] s
  rw [List.nil_append] at hread
  rw [← hread, sequenceOf, List.append_assoc]
  rfl

theorem unstyled_cons {c : Char} (hc : c ≠ esc) (s : List Char) :
    unstyled (c :: s) = c :: unstyled s := by
  rw [unstyled, signs_cons hc]
  rfl

theorem unstyled_sequenceOf {parameters : List Char} (h : 'm' ∉ parameters) (s : List Char) :
    unstyled (sequenceOf parameters ++ s) = unstyled s := by
  rw [unstyled, signs_sequenceOf h]
  rfl

/-! ### Styled texts -/

/-- Parameters that end where their sequence ends, on the line on which it begins. -/
structure AreParameters (parameters : List Char) : Prop where
  no_end : 'm' ∉ parameters
  no_line_feed : '\n' ∉ parameters

/-- The first text is the second one with sequences put in. -/
inductive Styled : List Char → List Char → Prop
  | nil : Styled [] []
  | char {colored plain : List Char} {c : Char} (hc : c ≠ esc) (rest : Styled colored plain) :
      Styled (c :: colored) (c :: plain)
  | sequence {colored plain parameters : List Char} (h : AreParameters parameters)
      (rest : Styled colored plain) : Styled (sequenceOf parameters ++ colored) plain

namespace Styled
variable {colored plain colored' plain' : List Char}

theorem append (h : Styled colored plain) (h' : Styled colored' plain') :
    Styled (colored ++ colored') (plain ++ plain') := by
  induction h with
  | nil => exact h'
  | char hc _ ih => exact .char hc ih
  | sequence hp _ ih =>
    rw [List.append_assoc]
    exact .sequence hp ih

theorem flatMap {α : Type} {parts : List α} {f g : α → List Char}
    (h : ∀ a ∈ parts, Styled (f a) (g a)) : Styled (parts.flatMap f) (parts.flatMap g) := by
  induction parts with
  | nil => exact .nil
  | cons a parts ih =>
    rw [List.forall_mem_cons] at h
    rw [List.flatMap_cons, List.flatMap_cons]
    exact h.1.append (ih h.2)

theorem of_notMem {s : List Char} (hs : esc ∉ s) : Styled s s := by
  induction s with
  | nil => exact .nil
  | cons c s ih =>
    rw [List.mem_cons, not_or] at hs
    exact .char (Ne.symm hs.1) (ih hs.2)

theorem unstyled_eq (h : Styled colored plain) : unstyled colored = plain := by
  induction h with
  | nil => rfl
  | char hc _ ih => rw [unstyled_cons hc, ih]
  | sequence hp _ ih => rw [unstyled_sequenceOf hp.no_end, ih]

theorem escape_notMem (h : Styled colored plain) : esc ∉ plain := by
  induction h with
  | nil => exact List.not_mem_nil
  | char hc _ ih => exact fun h => (List.mem_cons.mp h).elim (Ne.symm hc) ih
  | sequence _ _ ih => exact ih

theorem map_unstyled_cutLines (h : Styled colored plain) :
    (cutLines colored).map unstyled = cutLines plain := by
  induction h with
  | nil => rfl
  | @char colored plain c hc _ ih =>
    by_cases hline : c = '\n'
    · rw [hline, cutLines_line_feed, cutLines_line_feed, List.map_cons, ih]
      rfl
    · rw [cutLines_cons hline, cutLines_cons hline, ← ih]
      cases cutLines colored with
      | nil => rfl
      | cons first rest => rw [List.modifyHead_cons, List.map_cons, unstyled_cons hc]; rfl
  | @sequence colored plain parameters hp _ ih =>
    have hsequence : '\n' ∉ sequenceOf parameters := by
      simp [sequenceOf, esc, hp.no_line_feed]
    rw [cutLines_append hsequence, ← ih]
    cases cutLines colored with
    | nil => rfl
    | cons first rest =>
      rw [List.modifyHead_cons, List.map_cons, unstyled_sequenceOf hp.no_end, List.map_cons]

end Styled
end ChartText.Report
