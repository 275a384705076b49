import ChartText.Json.Printer
import ChartText.Json.Token

/-! # Tokens of what was written

`Lexes s ts` says that a text is cut into the given tokens, with as many rounds as it needs. A text
is lexed from its end: what stands before a text that lexes is a blank (`Lexes.space`) or a token
(`Lexes.token`). A string that was written is read as one token (`token?_writeString`). -/

namespace ChartText.Json

/-! ### Strings -/

theorem hexDigits_of_lt : ∀ n < 0x20,
    (hexDigits n).length = 4 ∧ Text.natOfHex? (hexDigits n) = some n := by
  decide

theorem stringCodes?_escapeChar (done : List Nat) (c : Char) (rest : List Char) :
    stringCodes? done (escapeChar c ++ rest) = stringCodes? (c.toNat :: done) rest := by
  unfold escapeChar
  split
  · simp [stringCodes?, simpleEscape?]
  · simp [stringCodes?, simpleEscape?]
  · simp [stringCodes?, simpleEscape?]
  · simp [stringCodes?, simpleEscape?]
  · simp [stringCodes?, simpleEscape?]
  · next hquote hslash _ _ _ =>
    split
    · next h => simp [stringCodes?, simpleEscape?, h]
    split
    · next h => simp [stringCodes?, simpleEscape?, h]
    split
    · next h =>
      obtain ⟨hlength, hhex⟩ := hexDigits_of_lt c.toNat h
      match hd : hexDigits c.toNat, hlength with
      | [x, y, z, w], _ =>
        rw [hd] at hhex
        simp [stringCodes?, hhex]
    · next h =>
      have hc : (c.toNat < 0x20 || c == '\\') = false := by simpa [h] using hslash
      rw [List.singleton_append, stringCodes?, hc]
      · rfl
      · exact hquote
      · exact fun _ _ _ _ _ he => absurd he hslash
      · exact fun _ _ he => absurd he hslash

theorem stringCodes?_flatMap_escapeChar (done : List Nat) (s rest : List Char) :
    stringCodes? done (s.flatMap escapeChar ++ '"' :: rest) =
      some (done.reverse ++ s.map Char.toNat, rest) := by
  induction s generalizing done with
  | nil => simp [stringCodes?]
  | cons c s ih =>
    rw [List.flatMap_cons, List.append_assoc, stringCodes?_escapeChar, ih]
    simp

theorem isHighSurrogate_toNat (c : Char) : isHighSurrogate c.toNat = false := by
  have hv : c.toNat.isValidChar := c.valid
  simp only [Nat.isValidChar] at hv
  simp only [isHighSurrogate, Bool.and_eq_false_iff, decide_eq_false_iff_not]
  omega

theorem isLowSurrogate_toNat (c : Char) : isLowSurrogate c.toNat = false := by
  have hv : c.toNat.isValidChar := c.valid
  simp only [Nat.isValidChar] at hv
  simp only [isLowSurrogate, Bool.and_eq_false_iff, decide_eq_false_iff_not]
  omega

theorem charsOfCodes?_map_toNat (done s : List Char) :
    charsOfCodes? done (s.map Char.toNat) = some (done.reverse ++ s) := by
  induction s generalizing done with
  | nil => simp [charsOfCodes?]
  | cons c s ih =>
    cases s with
    | nil =>
      simp [charsOfCodes?, isHighSurrogate_toNat, isLowSurrogate_toNat]
    | cons d s =>
      rw [List.map_cons] at ih
      simp [charsOfCodes?, isHighSurrogate_toNat, isLowSurrogate_toNat, ih]

theorem token?_writeString (s : String) (rest : List Char) :
    token? (writeString (some s) ++ rest) = some (.string (some s), rest) := by
  simp [writeString, quote, token?, stringCodes?_flatMap_escapeChar, textOfCodes?,
    charsOfCodes?_map_toNat]

/-! ### Texts and their tokens -/

/-- The text is cut into the tokens. -/
def Lexes (s : List Char) (ts : List Token) : Prop :=
  ∀ rounds done, s.length ≤ rounds → tokensFrom? rounds done s = some (done.reverse ++ ts)

theorem Lexes.tokens?_eq {s : List Char} {ts : List Token} (h : Lexes s ts) :
    tokens? s = some ts := by
  rw [tokens?, h _ _ (Nat.le_refl _), List.reverse_nil, List.nil_append]

theorem lexes_nil : Lexes [] [] := by
  intro rounds done _
  cases rounds <;> simp [tokensFrom?]

theorem Lexes.space {c : Char} {s : List Char} {ts : List Token} (hc : isSpace c = true)
    (h : Lexes s ts) : Lexes (c :: s) ts := by
  intro rounds done hr
  cases rounds with
  | zero => simp at hr
  | succ n =>
    have hs := h (n + 1) done (Nat.le_trans (Nat.le_succ _) hr)
    simpa [tokensFrom?, hc] using hs

theorem Lexes.spaces {blanks s : List Char} {ts : List Token} (hb : ∀ c ∈ blanks, isSpace c = true)
    (h : Lexes s ts) : Lexes (blanks ++ s) ts := by
  induction blanks with
  | nil => exact h
  | cons c blanks ih =>
    exact (ih fun d hd => hb d (List.mem_cons_of_mem c hd)).space (hb c List.mem_cons_self)

theorem isSpace_of_token? {c : Char} {s rest : List Char} {t : Token}
    (h : token? (c :: s) = some (t, rest)) : isSpace c = false := by
  rw [← Bool.not_eq_true]
  intro hc
  simp only [isSpace, Bool.or_eq_true, beq_iff_eq] at hc
  rcases hc with ((rfl | rfl) | rfl) | rfl <;>
    simp [token?, number?, spanWhole, spanDigits] at h

theorem Lexes.token {word rest : List Char} {t : Token} {ts : List Token} (hw : word ≠ [])
    (ht : token? (word ++ rest) = some (t, rest)) (h : Lexes rest ts) :
    Lexes (word ++ rest) (t :: ts) := by
  intro rounds done hr
  obtain ⟨c, word, rfl⟩ := List.exists_cons_of_ne_nil hw
  cases rounds with
  | zero => simp at hr
  | succ n =>
    have hs := h n (t :: done) (by simp at hr; omega)
    have hd : (c :: word ++ rest).dropWhile isSpace = c :: word ++ rest := by
      simp [isSpace_of_token? ht]
    rw [tokensFrom?, hd]
    simp only [List.cons_append] at ht ⊢
    rw [ht]
    simpa using hs

theorem Lexes.symbol {c : Char} {rest : List Char} {t : Token} {ts : List Token}
    (ht : token? (c :: rest) = some (t, rest)) (h : Lexes rest ts) : Lexes (c :: rest) (t :: ts) := by
  have hw : [c] ≠ [] := by simp
  exact token hw ht h

theorem Lexes.string {rest : List Char} {ts : List Token} (s : String) (h : Lexes rest ts) :
    Lexes (writeString (some s) ++ rest) (.string (some s) :: ts) :=
  h.token (by simp [writeString, quote]) (token?_writeString s rest)

end ChartText.Json
