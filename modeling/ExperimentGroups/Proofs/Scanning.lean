import ExperimentGroups.Proofs.Numbers

/-!
# The tokens of a written value

The compact text of a value is made of the tokens of the value, one after another. A word ends at
the punctuation behind it, and a text at its closing quotation mark, whatever it holds.

## Main definitions

* `Json.Fits`: values within the limits of the reader
* `Json.tokens`: the tokens of a value

## Main results

* `Json.run_textChars`: a text is read back
* `Json.run_chars`: a written value is read as its tokens
* `Json.chars_dropNonFinite`: what is not finite is written as a null
-/

namespace ExperimentGroups

namespace Json

/-! ## The limits of the reader -/

/-- **A value within the limits of the reader**: its parts are in no more open arrays and objects
than there is room for, and its integers are not too long. -/
inductive Fits : Nat → Json → Prop
  | null {room : Nat} : Fits room .null
  | bool {room : Nat} {b : Bool} : Fits room (.bool b)
  | int {room : Nat} {n : Int} (h : Text.isWithinDigits n = true) : Fits room (.int n)
  | double {room : Nat} {x : Double} : Fits room (.double x)
  | text {room : Nat} {s : String} : Fits room (.text s)
  | array {room : Nat} {items : List Json} (hroom : items ≠ [] → 0 < room)
    (hitems : ∀ item ∈ items, Fits (room - 1) item) : Fits room (.array items)
  | object {room : Nat} {members : List (String × Json)} (hroom : members ≠ [] → 0 < room)
    (hmembers : ∀ member ∈ members, Fits (room - 1) member.2) : Fits room (.object members)

/-! ## Tokens -/

/-- The token of a text without lone surrogates. -/
def Token.plain (s : String) : Token := .text s ⟨false, false⟩

mutual

/-- **The tokens of a value.** -/
def tokens : Json → List Token
  | .text s => [.plain s]
  | .array [] => [.openBracket, .closeBracket]
  | .array (x :: xs) => .openBracket :: (tokens x ++ itemTokens xs)
  | .object [] => [.openBrace, .closeBrace]
  | .object ((k, x) :: ms) => .openBrace :: .plain k :: .colon :: (tokens x ++ memberTokens ms)
  | j => [.word j]

/-- The tokens of the items after the first, and the closing bracket. -/
def itemTokens : List Json → List Token
  | [] => [.closeBracket]
  | x :: xs => .comma :: (tokens x ++ itemTokens xs)

/-- The tokens of the members after the first, and the closing brace. -/
def memberTokens : List (String × Json) → List Token
  | [] => [.closeBrace]
  | (k, x) :: ms => .comma :: .plain k :: .colon :: (tokens x ++ memberTokens ms)

end

/-! ## Written parts in front of others -/

theorem chars_array_append (x : Json) (xs : List Json) (rest : List Char) :
    (array (x :: xs)).chars ++ rest = '[' :: (x.chars ++ (itemChars xs ++ rest)) := by
  rw [chars, List.cons_append, List.append_assoc]

theorem itemChars_cons_append (x : Json) (xs : List Json) (rest : List Char) :
    itemChars (x :: xs) ++ rest = ',' :: (x.chars ++ (itemChars xs ++ rest)) := by
  rw [itemChars, List.cons_append, List.append_assoc]

theorem chars_object_append (k : String) (x : Json) (ms : List (String × Json))
    (rest : List Char) : (object ((k, x) :: ms)).chars ++ rest =
      '{' :: (textChars k ++ ':' :: (x.chars ++ (memberChars ms ++ rest))) := by
  rw [chars, List.cons_append, List.append_assoc, List.cons_append, List.append_assoc]

theorem memberChars_cons_append (k : String) (x : Json) (ms : List (String × Json))
    (rest : List Char) : memberChars ((k, x) :: ms) ++ rest =
      ',' :: (textChars k ++ ':' :: (x.chars ++ (memberChars ms ++ rest))) := by
  rw [memberChars, List.cons_append, List.append_assoc, List.cons_append, List.append_assoc]

/-! ## The automaton on characters -/

section Run

variable (limitsDoubles : Bool)

/-- The tokens from a state on, for characters among which no lone surrogate is let in. -/
def runChars (state : Scanner × List Token) (cs : List Char) : List Token × Bool :=
  Scanner.run ⟨none, limitsDoubles⟩ state (cs.map .char)

variable {limitsDoubles} {done : List Token} {state : Scanner × List Token} {rest : List Char}

theorem runChars_cons {next : Scanner × List Token} {c : Char}
    (h : Scanner.stepChar ⟨none, limitsDoubles⟩ state c = some next) :
    runChars limitsDoubles state (c :: rest) = runChars limitsDoubles next rest := by
  simp only [runChars, List.map_cons, Scanner.run, Scanner.step, h]

/-! ## Words -/

theorem stepBetween_of_isWordChar {c : Char} (h : isWordChar c = true) :
    Scanner.stepBetween c done = some (.word [c], done) := by
  have hne : ∀ d, isWordChar d = false → c ≠ d := by
    rintro d hd rfl
    rw [h] at hd
    cases hd
  simp [Scanner.stepBetween, hne ' ' rfl, hne '\t' rfl, hne '\n' rfl, hne '\r' rfl, hne '[' rfl,
    hne ']' rfl, hne '{' rfl, hne '}' rfl, hne ',' rfl, hne ':' rfl, hne '"' rfl, h]

/-- A word goes on up to the first character that cannot belong to it. -/
theorem runChars_word {cs : List Char} (reversed : List Char) (h : ∀ c ∈ cs, isWordChar c = true) :
    runChars limitsDoubles (.word reversed, done) (cs ++ rest) =
      runChars limitsDoubles (.word (cs.reverse ++ reversed), done) rest := by
  induction cs generalizing reversed with
  | nil => rfl
  | cons c cs ih =>
    have hstep : Scanner.stepChar ⟨none, limitsDoubles⟩ (.word reversed, done) c =
        some (.word (c :: reversed), done) := by
      rw [Scanner.stepChar, if_pos (h c List.mem_cons_self)]
    rw [List.cons_append, runChars_cons hstep, ih _ fun c hc => h c (List.mem_cons_of_mem _ hc)]
    simp

/-- What may follow a value: nothing, or the punctuation within an array or object. -/
def EndsValue (rest : List Char) : Prop := ∀ c ∈ rest.head?, c = ',' ∨ c = ']' ∨ c = '}'

/-- The end of a word. -/
theorem runChars_endWord {reversed : List Char} {t : Token}
    (h : word? limitsDoubles reversed.reverse = some t) (hrest : EndsValue rest) :
    runChars limitsDoubles (.word reversed, done) rest =
      runChars limitsDoubles (.between, t :: done) rest := by
  have hend : Scanner.endWord ⟨none, limitsDoubles⟩ reversed done = some (t :: done) := by
    rw [Scanner.endWord, h]
    rfl
  cases rest with
  | nil => simp only [runChars, List.map_nil, Scanner.run, Scanner.finish, hend]
  | cons c rest =>
    -- The punctuation ends the word and is a token itself.
    have hstep : ∀ next, Scanner.stepBetween c (t :: done) = some next →
        runChars limitsDoubles (.word reversed, done) (c :: rest) =
          runChars limitsDoubles (.between, t :: done) (c :: rest) := by
      intro next hnext
      have hword : isWordChar c = false := by
        rcases hrest c rfl with rfl | rfl | rfl <;> rfl
      have hbetween : Scanner.stepChar ⟨none, limitsDoubles⟩ (.between, t :: done) c = some next :=
        hnext
      rw [runChars_cons hbetween, runChars_cons]
      rw [Scanner.stepChar, if_neg (by simp [hword]), hend]
      exact hnext
    rcases hrest c rfl with rfl | rfl | rfl <;> exact hstep _ rfl

/-- **A word is read as its token**, if what follows cannot belong to it. -/
theorem run_word {cs : List Char} {t : Token} (h : word? limitsDoubles cs = some t)
    (hne : cs ≠ []) (hcs : ∀ c ∈ cs, isWordChar c = true) (hrest : EndsValue rest) :
    runChars limitsDoubles (.between, done) (cs ++ rest) =
      runChars limitsDoubles (.between, t :: done) rest := by
  obtain ⟨c, cs, rfl⟩ := List.exists_cons_of_ne_nil hne
  have hstep : Scanner.stepChar ⟨none, limitsDoubles⟩ (.between, done) c =
      some (.word [c], done) := stepBetween_of_isWordChar (hcs c List.mem_cons_self)
  rw [List.cons_append, runChars_cons hstep,
    runChars_word [c] fun c hc => hcs c (List.mem_cons_of_mem _ hc)]
  exact runChars_endWord (by simpa using h) hrest

/-! ## Texts -/

theorem Scanned.push_none (c : Char) (t : Scanned) :
    t.push none c = ⟨c :: t.reversed, t.marks⟩ := by
  simp [Scanned.push]

theorem hexDigit?_hexDigit : ∀ {n : Nat}, n < 16 → hexDigit? (Nat.digitChar n) = some n := by
  decide

/-- A hexadecimal digit that is not the last one of a code unit. -/
theorem runChars_unit_cons {t : Scanned} {left value n : Nat} (hn : n < 16) :
    runChars limitsDoubles (.unit t none (left + 2) value, done) (Nat.digitChar n :: rest) =
      runChars limitsDoubles (.unit t none (left + 1) (value * 16 + n), done) rest :=
  runChars_cons (by
    rw [Scanner.stepChar, hexDigit?_hexDigit hn, Option.bind_some, if_neg (by omega)]
    rfl)

/-- A control character as a code unit. -/
theorem runChars_unit {n : Nat} (hn : n < 0x20) (t : Scanned) :
    runChars limitsDoubles (.unit t none 4 0, done) (Text.hex 4 n ++ rest) =
      runChars limitsDoubles (.text (t.push none (Char.ofNat n)), done) rest := by
  have hhex : Text.hex 4 n =
      [Nat.digitChar 0, Nat.digitChar 0, Nat.digitChar (n / 16), Nat.digitChar (n % 16)] := by
    have hzero : n / 16 / 16 = 0 := by omega
    have hlow : n / 16 % 16 = n / 16 := by omega
    simp [Text.hex, Text.hexDigit, hzero, hlow]
  have hvalue : ((0 * 16 + 0) * 16 + 0) * 16 + n / 16 = n / 16 := by omega
  have hhigh : isHighSurrogate n = false := by simp [isHighSurrogate]; omega
  have hlow : isLowSurrogate n = false := by simp [isLowSurrogate]; omega
  have hend : Scanner.stepChar ⟨none, limitsDoubles⟩ (.unit t none 1 (n / 16), done)
      (Nat.digitChar (n % 16)) = some (.text (t.push none (Char.ofNat n)), done) := by
    rw [Scanner.stepChar, hexDigit?_hexDigit (by omega), Option.bind_some, if_pos (by omega),
      Nat.div_add_mod']
    simp [Scanner.endUnitAfter, Scanner.endUnit, hhigh, hlow]
  rw [hhex]
  simp only [List.cons_append, List.nil_append]
  rw [runChars_unit_cons (by omega), runChars_unit_cons (by omega), runChars_unit_cons (by omega),
    hvalue, runChars_cons hend]

/-- A character of a text. -/
theorem runChars_escapeChar (c : Char) (t : Scanned) :
    runChars limitsDoubles (.text t, done) (escapeChar c ++ rest) =
      runChars limitsDoubles (.text (t.push none c), done) rest := by
  unfold escapeChar
  split_ifs with h₁ h₂ h₃ h₄ h₅ h₆ h₇ h₈
  · subst h₁
    rfl
  · subst h₂
    rfl
  · subst h₃
    rfl
  · subst h₄
    rfl
  · subst h₅
    rfl
  · subst h₆
    rfl
  · subst h₇
    rfl
  · have hunit : runChars limitsDoubles (.unit t none 4 0, done) (Text.hex 4 c.toNat ++ rest) = _ :=
      runChars_unit h₈ t
    rw [Char.ofNat_toNat] at hunit
    exact hunit
  · refine runChars_cons ?_
    rw [Scanner.stepChar, Scanner.stepText, if_neg h₁, if_neg h₂, if_neg h₈]

theorem runChars_flatMap_escapeChar (cs : List Char) (t : Scanned) :
    runChars limitsDoubles (.text t, done) (cs.flatMap escapeChar ++ rest) =
      runChars limitsDoubles (.text ⟨cs.reverse ++ t.reversed, t.marks⟩, done) rest := by
  induction cs generalizing t with
  | nil => rfl
  | cons c cs ih =>
    rw [List.flatMap_cons, List.append_assoc, runChars_escapeChar, Scanned.push_none, ih]
    simp

/-- **A text is read back**, whatever follows it. -/
theorem run_textChars (s : String) :
    runChars limitsDoubles (.between, done) (textChars s ++ rest) =
      runChars limitsDoubles (.between, .plain s :: done) rest := by
  have hopen : Scanner.stepChar ⟨none, limitsDoubles⟩ (.between, done) '"' =
      some (.text .empty, done) := rfl
  have hclose : Scanner.stepChar ⟨none, limitsDoubles⟩
      (.text ⟨s.toList.reverse ++ [], ⟨false, false⟩⟩, done) '"' =
        some (.between, .plain s :: done) := by
    simp [Scanner.stepChar, Scanner.stepText, Token.plain]
  rw [textChars, List.cons_append, runChars_cons hopen, List.append_assoc,
    runChars_flatMap_escapeChar]
  exact runChars_cons hclose

/-! ## Values -/

/-- A number is read as its token. -/
theorem run_number {cs : List Char} {t : Token} (h : number? limitsDoubles cs = some t)
    (hcs : ∀ c ∈ cs, isWordChar c = true) (hrest : EndsValue rest) :
    runChars limitsDoubles (.between, done) (cs ++ rest) =
      runChars limitsDoubles (.between, t :: done) rest :=
  run_word (word?_of_number? h) (ne_nil_of_number? h) hcs hrest

theorem run_double {x : Double} (h : x.isFinite = true) (hrest : EndsValue rest) :
    runChars limitsDoubles (.between, done) (doubleChars x ++ rest) =
      runChars limitsDoubles (.between, .word (.double x) :: done) rest := by
  cases x with
  | nan => cases h
  | infinite negative => cases h
  | finite negative units held =>
    have hwords : ∀ c ∈ (Double.finite negative units held).text .json, isWordChar c = true :=
      fun c hc => isWordChar_of_mem_text hc
    exact run_number (number?_text _ negative units held) hwords hrest

theorem endsValue_itemChars (xs : List Json) (rest : List Char) :
    EndsValue (itemChars xs ++ rest) := by
  cases xs <;> rintro c ⟨⟩ <;> simp

theorem endsValue_memberChars (ms : List (String × Json)) (rest : List Char) :
    EndsValue (memberChars ms ++ rest) := by
  rcases ms with _ | ⟨⟨k, x⟩, ms⟩ <;> rintro c ⟨⟩ <;> simp

theorem runChars_comma : runChars limitsDoubles (.between, done) (',' :: rest) =
    runChars limitsDoubles (.between, .comma :: done) rest := runChars_cons rfl

theorem runChars_colon : runChars limitsDoubles (.between, done) (':' :: rest) =
    runChars limitsDoubles (.between, .colon :: done) rest := runChars_cons rfl

theorem runChars_openBracket : runChars limitsDoubles (.between, done) ('[' :: rest) =
    runChars limitsDoubles (.between, .openBracket :: done) rest := runChars_cons rfl

theorem runChars_closeBracket : runChars limitsDoubles (.between, done) (']' :: rest) =
    runChars limitsDoubles (.between, .closeBracket :: done) rest := runChars_cons rfl

theorem runChars_openBrace : runChars limitsDoubles (.between, done) ('{' :: rest) =
    runChars limitsDoubles (.between, .openBrace :: done) rest := runChars_cons rfl

theorem runChars_closeBrace : runChars limitsDoubles (.between, done) ('}' :: rest) =
    runChars limitsDoubles (.between, .closeBrace :: done) rest := runChars_cons rfl

mutual

/-- **A written value is read as its tokens.** -/
theorem run_chars : ∀ (j : Json) {room : Nat} {done : List Token} {rest : List Char},
    Fits room j → j.isFinite = true → EndsValue rest →
      runChars limitsDoubles (.between, done) (j.chars ++ rest) =
        runChars limitsDoubles (.between, j.tokens.reverse ++ done) rest
  | .null, _, _, _, _, _, hrest => run_word rfl (by decide) (List.all_eq_true.1 rfl) hrest
  | .bool true, _, _, _, _, _, hrest => run_word rfl (by decide) (List.all_eq_true.1 rfl) hrest
  | .bool false, _, _, _, _, _, hrest => run_word rfl (by decide) (List.all_eq_true.1 rfl) hrest
  | .int n, _, _, _, .int h, _, hrest =>
    run_number (number?_integerChars _ h) (fun _ hc => isWordChar_of_mem_integerChars hc) hrest
  | .double x, _, _, _, _, h, hrest => run_double h hrest
  | .text s, _, _, _, _, _, _ => run_textChars s
  | .array [], _, _, _, _, _, _ => runChars_openBracket.trans runChars_closeBracket
  | .array (x :: xs), _, done, rest, .array _ h, hfinite, _ => by
    rw [isFinite, itemsFinite, Bool.and_eq_true] at hfinite
    rw [chars_array_append, runChars_openBracket,
      run_chars x (h x List.mem_cons_self) hfinite.1 (endsValue_itemChars xs rest),
      run_itemChars xs (fun y hy => h y (List.mem_cons_of_mem x hy)) hfinite.2]
    simp [tokens]
  | .object [], _, _, _, _, _, _ => runChars_openBrace.trans runChars_closeBrace
  | .object ((k, x) :: ms), _, done, rest, .object _ h, hfinite, _ => by
    rw [isFinite, membersFinite, Bool.and_eq_true] at hfinite
    rw [chars_object_append, runChars_openBrace, run_textChars, runChars_colon,
      run_chars x (h (k, x) List.mem_cons_self) hfinite.1 (endsValue_memberChars ms rest),
      run_memberChars ms (fun m hm => h m (List.mem_cons_of_mem _ hm)) hfinite.2]
    simp [tokens]

theorem run_itemChars : ∀ (xs : List Json) {room : Nat} {done : List Token} {rest : List Char},
    (∀ x ∈ xs, Fits room x) → itemsFinite xs = true →
      runChars limitsDoubles (.between, done) (itemChars xs ++ rest) =
        runChars limitsDoubles (.between, (itemTokens xs).reverse ++ done) rest
  | [], _, _, _, _, _ => runChars_closeBracket
  | x :: xs, _, done, rest, h, hfinite => by
    rw [itemsFinite, Bool.and_eq_true] at hfinite
    rw [itemChars_cons_append, runChars_comma,
      run_chars x (h x List.mem_cons_self) hfinite.1 (endsValue_itemChars xs rest),
      run_itemChars xs (fun y hy => h y (List.mem_cons_of_mem x hy)) hfinite.2]
    simp [itemTokens]

theorem run_memberChars : ∀ (ms : List (String × Json)) {room : Nat} {done : List Token}
    {rest : List Char}, (∀ m ∈ ms, Fits room m.2) → membersFinite ms = true →
      runChars limitsDoubles (.between, done) (memberChars ms ++ rest) =
        runChars limitsDoubles (.between, (memberTokens ms).reverse ++ done) rest
  | [], _, _, _, _, _ => runChars_closeBrace
  | (k, x) :: ms, _, done, rest, h, hfinite => by
    rw [membersFinite, Bool.and_eq_true] at hfinite
    rw [memberChars_cons_append, runChars_comma, run_textChars, runChars_colon,
      run_chars x (h (k, x) List.mem_cons_self) hfinite.1 (endsValue_memberChars ms rest),
      run_memberChars ms (fun m hm => h m (List.mem_cons_of_mem _ hm)) hfinite.2]
    simp [memberTokens]

end

end Run

/-- **The tokens of a written value** are those of the value, and they are the whole text. -/
theorem scan_chars (limitsDoubles : Bool) {j : Json} {room : Nat} (h : Fits room j)
    (hfinite : j.isFinite = true) :
    scan ⟨none, limitsDoubles⟩ (j.chars.map .char) = (j.tokens, true) := by
  have hrun : runChars limitsDoubles (.between, []) (j.chars ++ []) = _ :=
    run_chars j h hfinite (by rintro c ⟨⟩)
  rw [List.append_nil, List.append_nil] at hrun
  refine hrun.trans ?_
  simp [runChars, Scanner.run, Scanner.finish]

/-! ## What is not finite -/

mutual

/-- **What is not finite is written as a null.** -/
theorem chars_dropNonFinite : ∀ j : Json, j.dropNonFinite.chars = j.chars
  | .null => rfl
  | .bool _ => rfl
  | .int _ => rfl
  | .double x => by by_cases h : x.isFinite = true <;> simp [dropNonFinite, chars, doubleChars, h]
  | .text _ => rfl
  | .array [] => rfl
  | .array (x :: xs) => by
    rw [dropNonFinite, dropNonFiniteItems, chars, chars, chars_dropNonFinite x,
      itemChars_dropNonFiniteItems xs]
  | .object [] => rfl
  | .object ((k, x) :: ms) => by
    rw [dropNonFinite, dropNonFiniteMembers, chars, chars, chars_dropNonFinite x,
      memberChars_dropNonFiniteMembers ms]

theorem itemChars_dropNonFiniteItems :
    ∀ xs : List Json, itemChars (dropNonFiniteItems xs) = itemChars xs
  | [] => rfl
  | x :: xs => by
    rw [dropNonFiniteItems, itemChars, itemChars, chars_dropNonFinite x,
      itemChars_dropNonFiniteItems xs]

theorem memberChars_dropNonFiniteMembers :
    ∀ ms : List (String × Json), memberChars (dropNonFiniteMembers ms) = memberChars ms
  | [] => rfl
  | (k, x) :: ms => by
    rw [dropNonFiniteMembers, memberChars, memberChars, chars_dropNonFinite x,
      memberChars_dropNonFiniteMembers ms]

end

end Json

end ExperimentGroups
