import ExperimentGroups.Proofs.Building

/-!
# What a JSON text spells

The grammar of JSON, without the limits of a reader: a text is a row of tokens, with blanks between
them or, if it is compact, without any, and a value has its tokens in a row. A word goes on as long
as it can, and a text in quotation marks ends at the first mark that is not escaped. So a text is
one row of tokens at most, and a row of tokens is that of one value at most: whoever reads a text by
the grammar finds the same value. The text that is written of a value is compact, and spells it.

## Main definitions

* `Json.literal?`: the token of a word, with numbers of any length
* `Json.Quotes`: the characters of a text in quotation marks
* `Json.Lexes`: the tokens of a text
* `Json.Spells`: that a text spells a value

## Main results

* `Json.Spells.unique`: a text spells one value at most
* `Json.spells_chars`: the written text of a finite value spells it
* `Json.spells_chars_iff`: so this value is what any reader finds, with a null for what is not finite
-/

namespace ExperimentGroups

namespace Json

open Text (isAsciiDigit digitValues naturalChars)

/-! ## Words -/

/-- The token of a number behind its sign, of any length. -/
def unsigned? (negative : Bool) (cs : List Char) : Option Token :=
  let (whole, rest) := Text.spanDigits cs
  if whole = [] ∨ (whole.head? = some 0 ∧ whole.length ≠ 1) then none
  else afterWhole negative whole rest

/-- **The token of a word**: one of the three names, or a number of any length. -/
def literal? : List Char → Option Token
  | ['n', 'u', 'l', 'l'] => some (.word .null)
  | ['t', 'r', 'u', 'e'] => some (.word (.bool true))
  | ['f', 'a', 'l', 's', 'e'] => some (.word (.bool false))
  | '-' :: cs => unsigned? true cs
  | cs => unsigned? false cs

theorem literal?_nil : literal? [] = none := rfl

theorem literal?_of_unsigned? {cs : List Char} {t : Token} (h : unsigned? false cs = some t) :
    literal? cs = some t := by
  unfold literal?
  split
  all_goals first | exact h | cases h

/-- A number within the limit is the same number without it. -/
theorem literal?_of_number? {limitsDoubles : Bool} {cs : List Char} {j : Json}
    (h : number? limitsDoubles cs = some (.word j)) : literal? cs = some (.word j) := by
  unfold number? at h
  split at h
  next negative unsigned hsign =>
  have hunsigned : unsigned? negative unsigned = some (.word j) := by
    unfold unsigned?
    dsimp only at h ⊢
    by_cases hwhole : (Text.spanDigits unsigned).1 = [] ∨
        ((Text.spanDigits unsigned).1.head? = some 0 ∧ (Text.spanDigits unsigned).1.length ≠ 1)
    · rw [if_pos hwhole] at h
      cases h
    · rw [if_neg hwhole] at h ⊢
      -- A number beyond the limit is no word to the reader.
      split at h
      · cases h
      · exact h
  split at hsign
  · cases hsign
    exact hunsigned
  · cases hsign
    exact literal?_of_unsigned? hunsigned

/-- **Integers of any size are written in full.** -/
theorem literal?_integerChars (n : Int) :
    literal? (Text.integerChars n) = some (.word (.int n)) := by
  have hdigits : ∀ c ∈ naturalChars n.natAbs, isAsciiDigit c = true :=
    fun c hc => Text.isAsciiDigit_of_mem_naturalChars hc
  have hspan : Text.spanDigits (naturalChars n.natAbs ++ []) = _ :=
    Text.spanDigits_append hdigits (by simp)
  rw [List.append_nil] at hspan
  have hunsigned : unsigned? (decide (n < 0)) (naturalChars n.natAbs) = some (.word (.int n)) := by
    rw [unsigned?, hspan]
    dsimp only
    rw [if_neg, afterWhole_naturalChars]
    -- There are digits, and none of them is a needless zero.
    rintro (hnil | ⟨hhead, hlength⟩)
    · exact Text.digitValues_naturalChars_ne_nil _ hnil
    · rw [Text.length_digitValues hdigits] at hlength
      exact hlength (length_naturalChars_of_head?_eq_zero hhead)
  by_cases hn : n < 0
  · rw [decide_eq_true hn] at hunsigned
    rw [Text.integerChars, if_pos hn]
    exact hunsigned
  · rw [decide_eq_false hn] at hunsigned
    rw [Text.integerChars, if_neg hn]
    exact literal?_of_unsigned? hunsigned

/-! ## Texts in quotation marks -/

/-- Whether a character stands for itself in a text. -/
def isPlain (c : Char) : Bool := c ≠ '"' && c ≠ '\\' && decide (0x20 ≤ c.toNat)

/-- What a character behind a backslash stands for. -/
def escaped? (c : Char) : Option Char :=
  if c = '"' ∨ c = '\\' ∨ c = '/' then some c
  else if c = 'b' then some '\x08'
  else if c = 'f' then some '\x0c'
  else if c = 'n' then some '\n'
  else if c = 'r' then some '\r'
  else if c = 't' then some '\t'
  else none

/-- The code unit of four hexadecimal digits. -/
def unit? (a b c d : Char) : Option Nat :=
  [a, b, c, d].foldlM (fun n digit => (hexDigit? digit).map (n * 16 + ·)) 0

/-- **The characters of a text**, from behind its opening quotation mark on, and what comes behind
the closing one. A character beyond the code units is escaped as a surrogate pair. -/
inductive Quotes : List Char → List Char → List Char → Prop
  | close {rest : List Char} : Quotes ('"' :: rest) [] rest
  | plain {c : Char} {cs s rest : List Char} (hc : isPlain c = true) (h : Quotes cs s rest) :
    Quotes (c :: cs) (c :: s) rest
  | escaped {e c : Char} {cs s rest : List Char} (he : escaped? e = some c)
    (h : Quotes cs s rest) : Quotes ('\\' :: e :: cs) (c :: s) rest
  | unit {a b c d : Char} {n : Nat} {cs s rest : List Char} (hn : unit? a b c d = some n)
    (hhigh : isHighSurrogate n = false) (hlow : isLowSurrogate n = false)
    (h : Quotes cs s rest) :
    Quotes ('\\' :: 'u' :: a :: b :: c :: d :: cs) (Char.ofNat n :: s) rest
  | pair {a b c d a' b' c' d' : Char} {high low : Nat} {cs s rest : List Char}
    (hn : unit? a b c d = some high) (hhigh : isHighSurrogate high = true)
    (hn' : unit? a' b' c' d' = some low) (hlow : isLowSurrogate low = true)
    (h : Quotes cs s rest) :
    Quotes ('\\' :: 'u' :: a :: b :: c :: d :: '\\' :: 'u' :: a' :: b' :: c' :: d' :: cs)
      (pairChar high low :: s) rest

/-- The first character decides how a text goes on. -/
theorem Quotes.unique {cs s s' rest rest' : List Char} (h : Quotes cs s rest)
    (h' : Quotes cs s' rest') : s = s' ∧ rest = rest' := by
  -- A code unit is a character or the first half of a pair, and never both.
  induction h generalizing s' rest' with
  | close =>
    cases h' with
    | close => exact ⟨rfl, rfl⟩
    | plain hc => cases hc
  | plain hc _ ih =>
    cases h' with
    | plain _ h' =>
      obtain ⟨rfl, rfl⟩ := ih h'
      exact ⟨rfl, rfl⟩
    | close | escaped | unit | pair => cases hc
  | escaped he _ ih =>
    cases h' with
    | plain hc => cases hc
    | escaped he' h' =>
      obtain ⟨rfl, rfl⟩ := ih h'
      rw [he, Option.some.injEq] at he'
      rw [he']
      exact ⟨rfl, rfl⟩
    | unit | pair => cases he
  | unit hn hhigh _ _ ih =>
    cases h' with
    | plain hc => cases hc
    | escaped he => cases he
    | unit hn' _ _ h' =>
      obtain ⟨rfl, rfl⟩ := ih h'
      rw [hn, Option.some.injEq] at hn'
      rw [hn']
      exact ⟨rfl, rfl⟩
    | pair hn' hhigh' =>
      rw [hn, Option.some.injEq] at hn'
      rw [hn', hhigh'] at hhigh
      cases hhigh
  | pair hn hhigh hlow _ _ ih =>
    cases h' with
    | plain hc => cases hc
    | escaped he => cases he
    | unit hn' hhigh' =>
      rw [hn, Option.some.injEq] at hn'
      rw [hn', hhigh'] at hhigh
      cases hhigh
    | pair hn' _ hlow' _ h' =>
      obtain ⟨rfl, rfl⟩ := ih h'
      rw [hn, Option.some.injEq] at hn'
      rw [hlow, Option.some.injEq] at hlow'
      rw [hn', hlow']
      exact ⟨rfl, rfl⟩

/-- A character is written as itself, by a letter or by its code unit. -/
theorem Quotes.escapeChar {cs s rest : List Char} (h : Quotes cs s rest) (c : Char) :
    Quotes (escapeChar c ++ cs) (c :: s) rest := by
  unfold Json.escapeChar
  split_ifs with h₁ h₂ h₃ h₄ h₅ h₆ h₇ h₈
  · subst h₁
    exact .escaped rfl h
  · subst h₂
    exact .escaped rfl h
  · subst h₃
    exact .escaped rfl h
  · subst h₄
    exact .escaped rfl h
  · subst h₅
    exact .escaped rfl h
  · subst h₆
    exact .escaped rfl h
  · subst h₇
    exact .escaped rfl h
  · -- The code unit of any other control character has two zeros in front.
    have hcontrol : ∀ n < 0x20, Text.hex 4 n =
          ['0', '0', Nat.digitChar (n / 16), Nat.digitChar (n % 16)] ∧
        unit? '0' '0' (Nat.digitChar (n / 16)) (Nat.digitChar (n % 16)) = some n ∧
        isHighSurrogate n = false ∧ isLowSurrogate n = false := by decide
    obtain ⟨hhex, hunit, hhigh, hlow⟩ := hcontrol c.toNat h₈
    have hquotes := h.unit hunit hhigh hlow
    rw [Char.ofNat_toNat] at hquotes
    rw [hhex]
    exact hquotes
  · have hplain : isPlain c = true := by
      simpa [isPlain, h₁, h₂] using h₈
    exact .plain hplain h

theorem quotes_flatMap_escapeChar (s rest : List Char) :
    Quotes (s.flatMap escapeChar ++ '"' :: rest) s rest := by
  induction s with
  | nil => exact .close
  | cons c s ih =>
    rw [List.flatMap_cons, List.append_assoc]
    exact ih.escapeChar c

/-! ## Tokens -/

/-- Whether a character may stand between tokens. -/
def isBlank (c : Char) : Bool := c == ' ' || c == '\t' || c == '\n' || c == '\r'

/-- The token of a punctuation mark. -/
def punctuation? : Char → Option Token
  | '[' => some .openBracket
  | ']' => some .closeBracket
  | '{' => some .openBrace
  | '}' => some .closeBrace
  | ',' => some .comma
  | ':' => some .colon
  | _ => none

/-- **The tokens of a text**, with blanks between them or not. A word is as long as it can be. -/
inductive Lexes (blanks : Bool) : List Char → List Token → Prop
  | done : Lexes blanks [] []
  | blank {c : Char} {cs : List Char} {ts : List Token} (hblanks : blanks = true)
    (hc : isBlank c = true) (h : Lexes blanks cs ts) : Lexes blanks (c :: cs) ts
  | punctuation {c : Char} {cs : List Char} {t : Token} {ts : List Token}
    (hc : punctuation? c = some t) (h : Lexes blanks cs ts) : Lexes blanks (c :: cs) (t :: ts)
  | text {cs s rest : List Char} {ts : List Token} (hs : Quotes cs s rest)
    (h : Lexes blanks rest ts) : Lexes blanks ('"' :: cs) (.plain (String.ofList s) :: ts)
  | word {cs : List Char} {t : Token} {ts : List Token}
    (ht : literal? (cs.takeWhile isWordChar) = some t)
    (h : Lexes blanks (cs.dropWhile isWordChar) ts) : Lexes blanks cs (t :: ts)

theorem isBlank_iff {c : Char} : isBlank c = true ↔ c = ' ' ∨ c = '\t' ∨ c = '\n' ∨ c = '\r' := by
  simp [isBlank, or_assoc]

theorem isWordChar_of_isBlank {c : Char} (h : isBlank c = true) : isWordChar c = false := by
  rcases isBlank_iff.1 h with rfl | rfl | rfl | rfl <;> rfl

theorem punctuation?_of_isBlank {c : Char} (h : isBlank c = true) : punctuation? c = none := by
  rcases isBlank_iff.1 h with rfl | rfl | rfl | rfl <;> rfl

theorem isWordChar_of_punctuation? {c : Char} {t : Token} (h : punctuation? c = some t) :
    isWordChar c = false := by
  unfold punctuation? at h
  split at h
  all_goals first | rfl | cases h

/-- No word begins with a character that cannot belong to one. -/
theorem literal?_takeWhile {c : Char} (hc : isWordChar c = false) (cs : List Char) :
    literal? ((c :: cs).takeWhile isWordChar) = none := by
  rw [List.takeWhile_cons_of_neg (by simp [hc]), literal?_nil]

/-- **A text is one row of tokens at most**: its first character decides what the first one is. -/
theorem Lexes.unique {blanks : Bool} {cs : List Char} {ts ts' : List Token}
    (h : Lexes blanks cs ts) (h' : Lexes blanks cs ts') : ts = ts' := by
  -- Blanks, punctuation marks and quotation marks are apart, and none of them begins a word.
  induction h generalizing ts' with
  | done =>
    cases h' with
    | done => rfl
    | word ht => cases ht
  | blank _ hc _ ih =>
    cases h' with
    | blank _ _ h' => exact ih h'
    | punctuation hc' =>
      rw [punctuation?_of_isBlank hc] at hc'
      cases hc'
    | text => cases hc
    | word ht =>
      rw [literal?_takeWhile (isWordChar_of_isBlank hc)] at ht
      cases ht
  | punctuation hc _ ih =>
    cases h' with
    | blank _ hc' =>
      rw [punctuation?_of_isBlank hc'] at hc
      cases hc
    | punctuation hc' h' =>
      rw [hc, Option.some.injEq] at hc'
      rw [hc', ih h']
    | text => cases hc
    | word ht =>
      rw [literal?_takeWhile (isWordChar_of_punctuation? hc)] at ht
      cases ht
  | text hs _ ih =>
    cases h' with
    | blank _ hc => cases hc
    | punctuation hc => cases hc
    | text hs' h' =>
      obtain ⟨rfl, rfl⟩ := hs.unique hs'
      rw [ih h']
    | word ht => cases ht
  | word ht _ ih =>
    cases h' with
    | done => cases ht
    | blank _ hc =>
      rw [literal?_takeWhile (isWordChar_of_isBlank hc)] at ht
      cases ht
    | punctuation hc =>
      rw [literal?_takeWhile (isWordChar_of_punctuation? hc)] at ht
      cases ht
    | text => cases ht
    | word ht' h' =>
      rw [ht, Option.some.injEq] at ht'
      rw [ht', ih h']

/-! ## Written values -/

theorem tokens_array_append (x : Json) (xs : List Json) (ts : List Token) :
    (array (x :: xs)).tokens ++ ts = .openBracket :: (x.tokens ++ (itemTokens xs ++ ts)) := by
  rw [tokens, List.cons_append, List.append_assoc]

theorem tokens_object_append (k : String) (x : Json) (ms : List (String × Json))
    (ts : List Token) : (object ((k, x) :: ms)).tokens ++ ts =
      .openBrace :: .plain k :: .colon :: (x.tokens ++ (memberTokens ms ++ ts)) := by
  rw [tokens, List.cons_append, List.cons_append, List.cons_append, List.append_assoc]

theorem itemTokens_cons_append (x : Json) (xs : List Json) (ts : List Token) :
    itemTokens (x :: xs) ++ ts = .comma :: (x.tokens ++ (itemTokens xs ++ ts)) := by
  rw [itemTokens, List.cons_append, List.append_assoc]

theorem memberTokens_cons_append (k : String) (x : Json) (ms : List (String × Json))
    (ts : List Token) : memberTokens ((k, x) :: ms) ++ ts =
      .comma :: .plain k :: .colon :: (x.tokens ++ (memberTokens ms ++ ts)) := by
  rw [memberTokens, List.cons_append, List.cons_append, List.cons_append, List.append_assoc]

section Writing

variable {blanks : Bool} {rest : List Char} {ts : List Token}

/-- A word ends at the punctuation behind it. -/
theorem Lexes.word_append {cs : List Char} {t : Token} (ht : literal? cs = some t)
    (hcs : ∀ c ∈ cs, isWordChar c = true) (hrest : EndsValue rest) (h : Lexes blanks rest ts) :
    Lexes blanks (cs ++ rest) (t :: ts) := by
  have hend : ∀ c ∈ rest.head?, isWordChar c = false := by
    intro c hc
    rcases hrest c hc with rfl | rfl | rfl <;> rfl
  obtain ⟨htake, hdrop⟩ := span_append hcs hend
  apply Lexes.word
  · rw [htake]
    exact ht
  · rw [hdrop]
    exact h

theorem Lexes.textChars (s : String) (h : Lexes blanks rest ts) :
    Lexes blanks (textChars s ++ rest) (.plain s :: ts) := by
  have hquotes := quotes_flatMap_escapeChar s.toList rest
  rw [Json.textChars, List.cons_append, List.append_assoc]
  have htext := Lexes.text hquotes h
  rw [String.ofList_toList] at htext
  exact htext

theorem Lexes.doubleChars {x : Double} (hx : x.isFinite = true) (hrest : EndsValue rest)
    (h : Lexes blanks rest ts) :
    Lexes blanks (doubleChars x ++ rest) (.word (.double x) :: ts) := by
  cases x with
  | nan => cases hx
  | infinite negative => cases hx
  | finite negative units held =>
    have hwords : ∀ c ∈ (Double.finite negative units held).text .json, isWordChar c = true :=
      fun c hc => isWordChar_of_mem_text hc
    exact .word_append (literal?_of_number? (number?_text false negative units held)) hwords hrest h

mutual

/-- **The tokens of a written value** are those of the value. -/
theorem Lexes.chars : ∀ (j : Json) {rest : List Char} {ts : List Token}, j.isFinite = true →
    EndsValue rest → Lexes blanks rest ts → Lexes blanks (j.chars ++ rest) (j.tokens ++ ts)
  | .null, _, _, _, hrest, h => .word_append rfl (List.all_eq_true.1 rfl) hrest h
  | .bool true, _, _, _, hrest, h => .word_append rfl (List.all_eq_true.1 rfl) hrest h
  | .bool false, _, _, _, hrest, h => .word_append rfl (List.all_eq_true.1 rfl) hrest h
  | .int n, _, _, _, hrest, h =>
    .word_append (literal?_integerChars n) (fun _ hc => isWordChar_of_mem_integerChars hc) hrest h
  | .double _, _, _, hfinite, hrest, h => h.doubleChars hfinite hrest
  | .text s, _, _, _, _, h => h.textChars s
  | .array [], _, _, _, _, h => .punctuation rfl (.punctuation rfl h)
  | .array (x :: xs), rest, ts, hfinite, _, h => by
    rw [isFinite, itemsFinite, Bool.and_eq_true] at hfinite
    rw [chars_array_append, tokens_array_append]
    exact .punctuation rfl
      (.chars x hfinite.1 (endsValue_itemChars xs rest) (.itemChars xs hfinite.2 h))
  | .object [], _, _, _, _, h => .punctuation rfl (.punctuation rfl h)
  | .object ((k, x) :: ms), rest, ts, hfinite, _, h => by
    rw [isFinite, membersFinite, Bool.and_eq_true] at hfinite
    rw [chars_object_append, tokens_object_append]
    refine .punctuation rfl (.textChars k (.punctuation rfl ?_))
    exact .chars x hfinite.1 (endsValue_memberChars ms rest) (.memberChars ms hfinite.2 h)

theorem Lexes.itemChars : ∀ (xs : List Json) {rest : List Char} {ts : List Token},
    itemsFinite xs = true → Lexes blanks rest ts →
      Lexes blanks (itemChars xs ++ rest) (itemTokens xs ++ ts)
  | [], _, _, _, h => .punctuation rfl h
  | x :: xs, rest, ts, hfinite, h => by
    rw [itemsFinite, Bool.and_eq_true] at hfinite
    rw [itemChars_cons_append, itemTokens_cons_append]
    exact .punctuation rfl
      (.chars x hfinite.1 (endsValue_itemChars xs rest) (.itemChars xs hfinite.2 h))

theorem Lexes.memberChars : ∀ (ms : List (String × Json)) {rest : List Char} {ts : List Token},
    membersFinite ms = true → Lexes blanks rest ts →
      Lexes blanks (memberChars ms ++ rest) (memberTokens ms ++ ts)
  | [], _, _, _, h => .punctuation rfl h
  | (k, x) :: ms, rest, ts, hfinite, h => by
    rw [membersFinite, Bool.and_eq_true] at hfinite
    rw [memberChars_cons_append, memberTokens_cons_append]
    refine .punctuation rfl (.textChars k (.punctuation rfl ?_))
    exact .chars x hfinite.1 (endsValue_memberChars ms rest) (.memberChars ms hfinite.2 h)

end

end Writing

/-! ## Values -/

section Tokens

variable {j : Json} {t : Token} {ts us : List Token}

/-- A word is a value, and so is nothing else that begins with it. -/
theorem eq_of_tokens_append_eq_word {value : Json} (h : j.tokens ++ ts = .word value :: us) :
    j = value ∧ ts = us := by
  cases j with
  | text s => cases h
  | array items => cases items <;> cases h
  | object members => rcases members with _ | ⟨⟨k, x⟩, ms⟩ <;> cases h
  | _ =>
    cases h
    exact ⟨rfl, rfl⟩

theorem eq_of_tokens_append_eq_plain {s : String} (h : j.tokens ++ ts = .plain s :: us) :
    j = .text s ∧ ts = us := by
  cases j with
  | text s' =>
    cases h
    exact ⟨rfl, rfl⟩
  | array items => cases items <;> cases h
  | object members => rcases members with _ | ⟨⟨k, x⟩, ms⟩ <;> cases h
  | _ => cases h

theorem cases_of_tokens_append_eq_openBracket (h : j.tokens ++ ts = .openBracket :: us) :
    (j = .array [] ∧ us = .closeBracket :: ts) ∨
      ∃ x xs, j = .array (x :: xs) ∧ us = x.tokens ++ (itemTokens xs ++ ts) := by
  cases j with
  | array items =>
    cases items with
    | nil =>
      cases h
      exact .inl ⟨rfl, rfl⟩
    | cons x xs =>
      rw [tokens_array_append] at h
      exact .inr ⟨x, xs, rfl, (List.cons.inj h).2.symm⟩
  | object members => rcases members with _ | ⟨⟨k, x⟩, ms⟩ <;> cases h
  | _ => cases h

theorem cases_of_tokens_append_eq_openBrace (h : j.tokens ++ ts = .openBrace :: us) :
    (j = .object [] ∧ us = .closeBrace :: ts) ∨
      ∃ k x ms, j = .object ((k, x) :: ms) ∧
        us = .plain k :: .colon :: (x.tokens ++ (memberTokens ms ++ ts)) := by
  cases j with
  | array items => cases items <;> cases h
  | object members =>
    rcases members with _ | ⟨⟨k, x⟩, ms⟩
    · cases h
      exact .inl ⟨rfl, rfl⟩
    · rw [tokens_object_append] at h
      exact .inr ⟨k, x, ms, rfl, (List.cons.inj h).2.symm⟩
  | _ => cases h

/-- No value begins with a closing bracket. -/
theorem tokens_append_ne_closeBracket (j : Json) (ts us : List Token) :
    j.tokens ++ ts ≠ .closeBracket :: us := by
  obtain ⟨t, ts', hts, ht⟩ := exists_tokens_eq_cons j
  rw [hts, List.cons_append]
  exact fun h => ht (List.cons.inj h).1

end Tokens

mutual

/-- **A row of tokens begins with one value at most.** -/
theorem tokens_append_inj : ∀ (j : Json) {j' : Json} {ts ts' : List Token},
    j.tokens ++ ts = j'.tokens ++ ts' → j = j' ∧ ts = ts'
  | .null, _, _, _, h => (eq_of_tokens_append_eq_word h.symm).imp Eq.symm Eq.symm
  | .bool _, _, _, _, h => (eq_of_tokens_append_eq_word h.symm).imp Eq.symm Eq.symm
  | .int _, _, _, _, h => (eq_of_tokens_append_eq_word h.symm).imp Eq.symm Eq.symm
  | .double _, _, _, _, h => (eq_of_tokens_append_eq_word h.symm).imp Eq.symm Eq.symm
  | .text _, _, _, _, h => (eq_of_tokens_append_eq_plain h.symm).imp Eq.symm Eq.symm
  | .array [], _, ts, ts', h => by
    rcases cases_of_tokens_append_eq_openBracket h.symm with ⟨rfl, hus⟩ | ⟨y, ys, -, hus⟩
    · exact ⟨rfl, (List.cons.inj hus).2⟩
    · -- The bracket closes at once, but no value begins with it.
      exact absurd hus.symm (tokens_append_ne_closeBracket y _ _)
  | .array (x :: xs), _, ts, ts', h => by
    rw [tokens_array_append] at h
    rcases cases_of_tokens_append_eq_openBracket h.symm with ⟨-, hus⟩ | ⟨y, ys, rfl, hus⟩
    · exact absurd hus (tokens_append_ne_closeBracket x _ _)
    · obtain ⟨rfl, hitems⟩ := tokens_append_inj x hus
      obtain ⟨rfl, rfl⟩ := itemTokens_append_inj xs hitems
      exact ⟨rfl, rfl⟩
  | .object [], _, ts, ts', h => by
    rcases cases_of_tokens_append_eq_openBrace h.symm with ⟨rfl, hus⟩ | ⟨k, y, ms, -, hus⟩
    · exact ⟨rfl, (List.cons.inj hus).2⟩
    · cases hus
  | .object ((k, x) :: ms), _, ts, ts', h => by
    rw [tokens_object_append] at h
    rcases cases_of_tokens_append_eq_openBrace h.symm with ⟨-, hus⟩ | ⟨k', y, ns, rfl, hus⟩
    · cases hus
    · obtain ⟨hname, hus⟩ := List.cons.inj hus
      obtain ⟨rfl, hmembers⟩ := tokens_append_inj x (List.cons.inj hus).2
      obtain ⟨rfl, rfl⟩ := memberTokens_append_inj ms hmembers
      cases hname
      exact ⟨rfl, rfl⟩

theorem itemTokens_append_inj : ∀ (xs : List Json) {ys : List Json} {ts ts' : List Token},
    itemTokens xs ++ ts = itemTokens ys ++ ts' → xs = ys ∧ ts = ts'
  | [], [], _, _, h => ⟨rfl, (List.cons.inj h).2⟩
  | [], _ :: _, _, _, h => by cases h
  | _ :: _, [], _, _, h => by cases h
  | x :: xs, y :: ys, ts, ts', h => by
    rw [itemTokens_cons_append, itemTokens_cons_append] at h
    obtain ⟨rfl, hitems⟩ := tokens_append_inj x (List.cons.inj h).2
    obtain ⟨rfl, rfl⟩ := itemTokens_append_inj xs hitems
    exact ⟨rfl, rfl⟩

theorem memberTokens_append_inj : ∀ (ms : List (String × Json)) {ns : List (String × Json)}
    {ts ts' : List Token},
    memberTokens ms ++ ts = memberTokens ns ++ ts' → ms = ns ∧ ts = ts'
  | [], [], _, _, h => ⟨rfl, (List.cons.inj h).2⟩
  | [], _ :: _, _, _, h => by cases h
  | _ :: _, [], _, _, h => by cases h
  | (k, x) :: ms, (k', y) :: ns, ts, ts', h => by
    rw [memberTokens_cons_append, memberTokens_cons_append] at h
    obtain ⟨hname, h⟩ := List.cons.inj (List.cons.inj h).2
    obtain ⟨rfl, hmembers⟩ := tokens_append_inj x (List.cons.inj h).2
    obtain ⟨rfl, rfl⟩ := memberTokens_append_inj ms hmembers
    cases hname
    exact ⟨rfl, rfl⟩

end

/-- **A text spells a value** if it is made of its tokens, with blanks between them or not. -/
def Spells (blanks : Bool) (cs : List Char) (j : Json) : Prop := Lexes blanks cs j.tokens

variable {blanks : Bool} {cs : List Char} {j j' : Json}

/-- **A text spells one value at most.** -/
theorem Spells.unique (h : Spells blanks cs j) (h' : Spells blanks cs j') : j = j' := by
  have htokens : j.tokens ++ [] = j'.tokens ++ [] := by
    rw [Lexes.unique h h']
  exact (tokens_append_inj j htokens).1

/-- **The written text of a finite value spells it**, without any blanks. -/
theorem spells_chars (blanks : Bool) (h : j.isFinite = true) : Spells blanks j.chars j := by
  have hlexes : Lexes blanks (j.chars ++ []) (j.tokens ++ []) :=
    .chars j h (by rintro c ⟨⟩) .done
  rw [List.append_nil, List.append_nil] at hlexes
  exact hlexes

/-- **What the text of a value spells**: the value, with a null for what is not finite, and nothing
else. -/
theorem spells_chars_iff (blanks : Bool) (j j' : Json) :
    Spells blanks j.chars j' ↔ j' = j.dropNonFinite := by
  have hspells : Spells blanks j.chars j.dropNonFinite := by
    rw [← chars_dropNonFinite]
    exact spells_chars blanks (isFinite_dropNonFinite j)
  constructor
  · exact fun h => h.unique hspells
  · rintro rfl
    exact hspells

end Json

end ExperimentGroups
