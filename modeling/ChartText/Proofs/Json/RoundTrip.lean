import ChartText.Json.Reader
import ChartText.Proofs.Json.Lexing

/-! # Reading what was written

A value whose strings are texts and whose numbers are written as numbers (`Json.Readable`) is read
back from its text (`parse?_pretty`). The text is cut into the tokens of the value
(`lexes_writePretty`), and reading these tokens gives the value, whatever is open around it
(`run_tokens`). -/

namespace ChartText.Json

/-- What can stand behind a value in a text that was written. -/
def EndsValue (rest : List Char) : Prop :=
  ∀ c, rest.head? = some c → c = ',' ∨ c = '\n'

/-- The text is one number, before anything that can stand behind it. -/
structure IsNumber (literal : List Char) : Prop where
  ne_nil : literal ≠ []
  token : ∀ rest, EndsValue rest → token? (literal ++ rest) = some (.number literal, rest)

/-- Every string in the value stands for a text, and every number is one. -/
inductive Readable : Json → Prop
  | null : Readable .null
  | bool (b : Bool) : Readable (.bool b)
  | number {literal : List Char} (h : IsNumber literal) : Readable (.number literal)
  | string (s : String) : Readable (.string (some s))
  | array {elements : List Json} (h : ∀ v ∈ elements, Readable v) : Readable (.array elements)
  | object {fields : List (Option String × Json)} (keys : ∀ f ∈ fields, f.1.isSome = true)
      (values : ∀ f ∈ fields, Readable f.2) : Readable (.object fields)

/-! ### The tokens of a value -/

mutual

def tokens : Json → List Token
  | .null => [.null]
  | .bool b => [.bool b]
  | .number literal => [.number literal]
  | .string s => [.string s]
  | .array elements => .openBracket :: elementTokens elements ++ [.closeBracket]
  | .object fields => .openBrace :: fieldTokens fields ++ [.closeBrace]

def elementTokens : List Json → List Token
  | [] => []
  | [v] => tokens v
  | v :: rest => tokens v ++ .comma :: elementTokens rest

def fieldTokens : List (Option String × Json) → List Token
  | [] => []
  | [(key, v)] => .string key :: .colon :: tokens v
  | (key, v) :: rest => .string key :: .colon :: tokens v ++ .comma :: fieldTokens rest

end

theorem elementTokens_cons_cons (v w : Json) (rest : List Json) :
    elementTokens (v :: w :: rest) = tokens v ++ .comma :: elementTokens (w :: rest) := by
  rw [elementTokens]
  simp

theorem fieldTokens_cons_cons (key : Option String) (v : Json) (f : Option String × Json)
    (rest : List (Option String × Json)) :
    fieldTokens ((key, v) :: f :: rest) =
      .string key :: .colon :: tokens v ++ .comma :: fieldTokens (f :: rest) := by
  rw [fieldTokens]
  simp

/-! ### From the text to the tokens -/

theorem prettyElements_cons_cons (level : Nat) (v w : Json) (rest : List Json) :
    prettyElements level (v :: w :: rest) =
      newline level ++ writePretty level v ++ ',' :: prettyElements level (w :: rest) := by
  rw [prettyElements]
  simp

theorem prettyFields_cons_cons (level : Nat) (key : Option String) (v : Json)
    (f : Option String × Json) (rest : List (Option String × Json)) :
    prettyFields level ((key, v) :: f :: rest) =
      newline level ++ writeString key ++ ": ".toList ++ writePretty level v ++
        ',' :: prettyFields level (f :: rest) := by
  rw [prettyFields]
  simp

theorem writePretty_array_cons (level : Nat) (v : Json) (rest : List Json) :
    writePretty level (.array (v :: rest)) =
      '[' :: prettyElements (level + 1) (v :: rest) ++ newline level ++ [']'] := by
  rw [writePretty]
  simp

theorem writePretty_object_cons (level : Nat) (f : Option String × Json)
    (rest : List (Option String × Json)) :
    writePretty level (.object (f :: rest)) =
      '\x7b' :: prettyFields (level + 1) (f :: rest) ++ newline level ++ ['\x7d'] := by
  rw [writePretty]
  simp

theorem endsValue_newline (level : Nat) (rest : List Char) : EndsValue (newline level ++ rest) := by
  rintro c ⟨⟩
  exact .inr rfl

theorem endsValue_comma (rest : List Char) : EndsValue (',' :: rest) := by
  rintro c ⟨⟩
  exact .inl rfl

theorem Lexes.newline {s : List Char} {ts : List Token} (h : Lexes s ts) (level : Nat) :
    Lexes (newline level ++ s) ts := by
  refine h.spaces fun c hc => ?_
  simp only [Json.newline, List.mem_cons, List.mem_replicate] at hc
  rcases hc with rfl | ⟨-, rfl⟩ <;> rfl

/-- The text of the value is cut into its tokens, whatever stands behind it. -/
def Splits (v : Json) : Prop :=
  ∀ level rest ts, EndsValue rest → Lexes rest ts →
    Lexes (writePretty level v ++ rest) (v.tokens ++ ts)

theorem lexes_prettyElements {elements : List Json} (hne : elements ≠ [])
    (hv : ∀ v ∈ elements, Splits v) (level : Nat) {rest : List Char} {ts : List Token}
    (hr : EndsValue rest) (h : Lexes rest ts) :
    Lexes (prettyElements level elements ++ rest) (elementTokens elements ++ ts) := by
  induction elements with
  | nil => exact absurd rfl hne
  | cons v elements ih =>
    have hsplits := hv v List.mem_cons_self
    cases elements with
    | nil =>
      rw [prettyElements, elementTokens, List.append_assoc]
      exact (hsplits level rest ts hr h).newline level
    | cons w elements =>
      have htail := ih (by simp) fun u hu => hv u (List.mem_cons_of_mem v hu)
      have hhead := (hsplits level _ _ (endsValue_comma _) (htail.symbol rfl)).newline level
      rw [prettyElements_cons_cons, elementTokens_cons_cons]
      simpa using hhead

theorem lexes_prettyFields {fields : List (Option String × Json)} (hne : fields ≠ [])
    (hk : ∀ f ∈ fields, f.1.isSome = true) (hv : ∀ f ∈ fields, Splits f.2) (level : Nat)
    {rest : List Char} {ts : List Token} (hr : EndsValue rest) (h : Lexes rest ts) :
    Lexes (prettyFields level fields ++ rest) (fieldTokens fields ++ ts) := by
  have field (key : String) {s : List Char} {us : List Token} (hs : Lexes s us) :
      Lexes (newline level ++ (writeString (some key) ++ (':' :: ' ' :: s)))
        (.string (some key) :: .colon :: us) :=
    (((hs.space rfl).symbol rfl).string key).newline level
  induction fields with
  | nil => exact absurd rfl hne
  | cons f fields ih =>
    obtain ⟨key, v⟩ := f
    obtain ⟨key, rfl⟩ := Option.isSome_iff_exists.mp (hk (key, v) List.mem_cons_self)
    have hsplits : Splits v := hv (some key, v) List.mem_cons_self
    cases fields with
    | nil =>
      rw [prettyFields, fieldTokens]
      simpa using field key (hsplits level rest ts hr h)
    | cons g fields =>
      have htail := ih (by simp) (fun u hu => hk u (List.mem_cons_of_mem _ hu))
        fun u hu => hv u (List.mem_cons_of_mem _ hu)
      have hhead := field key (hsplits level _ _ (endsValue_comma _) (htail.symbol rfl))
      rw [prettyFields_cons_cons, fieldTokens_cons_cons]
      simpa using hhead

theorem Readable.splits {v : Json} (hv : Readable v) : Splits v := by
  induction hv with
  | null =>
    intro level rest ts _ h
    exact h.token (List.cons_ne_nil _ _) rfl
  | bool b =>
    intro level rest ts _ h
    cases b
    · exact h.token (List.cons_ne_nil _ _) rfl
    · exact h.token (List.cons_ne_nil _ _) rfl
  | number hn =>
    intro level rest ts hr h
    exact h.token hn.ne_nil (hn.token rest hr)
  | string s =>
    intro level rest ts _ h
    exact h.string s
  | @array elements _ ih =>
    intro level rest ts hr h
    cases elements with
    | nil => exact (h.symbol (t := .closeBracket) rfl).symbol rfl
    | cons v elements =>
      have hbody := lexes_prettyElements (by simp) ih (level + 1) (endsValue_newline level _)
        ((h.symbol (c := ']') rfl).newline level)
      rw [writePretty_array_cons, tokens]
      simpa using hbody.symbol (c := '[') rfl
  | @object fields hk _ ih =>
    intro level rest ts hr h
    cases fields with
    | nil => exact (h.symbol (t := .closeBrace) rfl).symbol rfl
    | cons f fields =>
      have hbody := lexes_prettyFields (by simp) hk ih (level + 1) (endsValue_newline level _)
        ((h.symbol (c := '\x7d') rfl).newline level)
      rw [writePretty_object_cons, tokens]
      simpa using hbody.symbol (c := '\x7b') rfl

/-! ### From the tokens to the value -/

namespace Progress

/-- A value may come next. -/
def TakesValue (m : Mode) : Prop :=
  m = .value ∨ m = .firstElement

theorem run_of_takesValue {m : Mode} (hm : TakesValue m) {stack : List Frame} {t : Token}
    (ht : t ≠ .closeBracket) {q : Progress} (hq : readValue stack t = some q) (ts : List Token) :
    run ⟨m, stack⟩ (t :: ts) = run q ts := by
  have hstep : step ⟨m, stack⟩ t = some q := by
    rcases hm with rfl | rfl
    · exact hq
    · rw [← hq]
      unfold step
      split <;> simp_all
  rw [run, hstep]

/-- The tokens of the value are read as the value, whatever is open around it. -/
def Builds (v : Json) : Prop :=
  ∀ m stack ts, TakesValue m → run ⟨m, stack⟩ (v.tokens ++ ts) = run ⟨.after v, stack⟩ ts

theorem run_elementTokens {elements : List Json} (hne : elements ≠ [])
    (hv : ∀ v ∈ elements, Builds v) {m : Mode} (hm : TakesValue m) (done : List Json)
    (stack : List Frame) (ts : List Token) :
    run ⟨m, .array done :: stack⟩ (elementTokens elements ++ .closeBracket :: ts) =
      run ⟨.after (.array (done.reverse ++ elements)), stack⟩ ts := by
  induction elements generalizing m done with
  | nil => exact absurd rfl hne
  | cons v elements ih =>
    have hbuilds := hv v List.mem_cons_self
    cases elements with
    | nil =>
      rw [elementTokens, hbuilds _ _ _ hm, run]
      simp [step, readAfter]
    | cons w elements =>
      have htail := ih (by simp) (fun u hu => hv u (List.mem_cons_of_mem v hu)) (.inl rfl) (v :: done)
      rw [elementTokens_cons_cons, List.append_assoc, hbuilds _ _ _ hm, List.cons_append, run]
      simpa [step, readAfter] using htail

theorem run_fieldTokens {fields : List (Option String × Json)} (hne : fields ≠ [])
    (hv : ∀ f ∈ fields, Builds f.2) (done : List (Option String × Json)) (stack : List Frame)
    (ts : List Token) :
    run ⟨.field done, stack⟩ (fieldTokens fields ++ .closeBrace :: ts) =
      run ⟨.after (.object (done.reverse ++ fields)), stack⟩ ts := by
  have field (key : Option String) (done : List (Option String × Json)) (us : List Token) :
      run ⟨.field done, stack⟩ (.string key :: .colon :: us) =
        run ⟨.value, .object done key :: stack⟩ us := rfl
  induction fields generalizing done with
  | nil => exact absurd rfl hne
  | cons f fields ih =>
    obtain ⟨key, v⟩ := f
    have hbuilds : Builds v := hv (key, v) List.mem_cons_self
    cases fields with
    | nil =>
      rw [fieldTokens, List.cons_append, List.cons_append, field, hbuilds _ _ _ (.inl rfl), run]
      simp [step, readAfter]
    | cons g fields =>
      have htail := ih (by simp) (fun u hu => hv u (List.mem_cons_of_mem _ hu)) ((key, v) :: done)
      rw [fieldTokens_cons_cons, List.append_assoc, List.cons_append, List.cons_append, field,
        hbuilds _ _ _ (.inl rfl), List.cons_append, run]
      simpa [step, readAfter] using htail

end Progress

theorem Readable.builds {v : Json} (hv : Readable v) : Progress.Builds v := by
  induction hv with
  | null | bool b | number h | string s =>
    intro m stack ts hm
    rw [tokens, List.singleton_append]
    exact Progress.run_of_takesValue hm (by simp) rfl ts
  | @array elements _ ih =>
    intro m stack ts hm
    rw [tokens, List.append_assoc, List.cons_append,
      Progress.run_of_takesValue hm (t := .openBracket) (by simp) rfl]
    cases elements with
    | nil => rfl
    | cons v elements =>
      exact Progress.run_elementTokens (by simp) ih (.inr rfl) [] stack ts
  | @object fields _ _ ih =>
    intro m stack ts hm
    rw [tokens, List.append_assoc, List.cons_append,
      Progress.run_of_takesValue hm (t := .openBrace) (by simp) rfl]
    cases fields with
    | nil => rfl
    | cons f fields =>
      have hfields := Progress.run_fieldTokens (by simp) ih [] stack ts
      rw [List.reverse_nil, List.nil_append] at hfields
      rw [← hfields]
      -- The first key is read by the same step as any other.
      cases fields <;> rfl

/-- A value is read back from its text, which may stand between blanks. -/
theorem parse?_pretty {v : Json} (hv : Readable v) (blanks : List Char)
    (hb : ∀ c ∈ blanks, c = '\n') : parse? (v.pretty ++ String.ofList blanks) = some v := by
  have hends : EndsValue blanks := fun c hc => .inr (hb c (List.mem_of_head? hc))
  have hlex : Lexes blanks [] := by
    have hspace : ∀ c ∈ blanks, isSpace c = true := fun c hc => hb c hc ▸ rfl
    simpa using lexes_nil.spaces hspace
  have htokens := (hv.splits 0 blanks [] hends hlex).tokens?_eq
  have hrun := hv.builds .value [] [] (.inl rfl)
  rw [List.append_nil] at htokens hrun
  rw [parse?, pretty, String.toList_append, String.toList_ofList, String.toList_ofList, htokens]
  simp [hrun, Progress.run, Progress.value?]

end ChartText.Json
