import ExperimentGroups.Json.Reader
import ExperimentGroups.Proofs.Scanning

/-!
# Written values are read back

The machine that reads tokens puts a value into the innermost open array or object as soon as the
last of its tokens has come, if there is room for it. So a finite value within the limits of the
reader is read back from its compact text, and every value that is read is within these limits.

## Main definitions

* `Json.FramesFit`, `Json.PlaceFits`: that what the machine holds is within the limits

## Main results

* `Json.foldlM_tokens`: the machine puts a value as soon as its tokens have come
* `Json.read?_chars`: a written value is read back, with a null for what is not finite
* `Json.read?_append_lineFeed`: a line feed at the end changes nothing
* `Json.fits_of_readSymbols`, `Json.fits_of_read?`: what is read is within the limits
-/

namespace ExperimentGroups

namespace Json

open Builder

theorem Fits.mono {room room' : Nat} {j : Json} (h : Fits room j) (hle : room ≤ room') :
    Fits room' j := by
  induction h generalizing room' with
  | null => exact .null
  | bool => exact .bool
  | int h => exact .int h
  | double => exact .double
  | text => exact .text
  | array hroom _ ih =>
    exact .array (fun hne => (hroom hne).trans_le hle) fun x hx => ih x hx (by omega)
  | object hroom _ ih =>
    exact .object (fun hne => (hroom hne).trans_le hle) fun m hm => ih m hm (by omega)

/-! ## From tokens to the value -/

theorem exists_tokens_eq_cons (j : Json) : ∃ t ts, j.tokens = t :: ts ∧ t ≠ .closeBracket := by
  cases j with
  | array items => cases items <;> exact ⟨_, _, rfl, by simp⟩
  | object members =>
    rcases members with _ | ⟨⟨k, x⟩, ms⟩
    · exact ⟨_, _, rfl, by simp⟩
    · exact ⟨_, _, rfl, by simp⟩
  | text s => exact ⟨_, _, rfl, by simp [Token.plain]⟩
  | null => exact ⟨_, _, rfl, by simp⟩
  | bool b => exact ⟨_, _, rfl, by simp⟩
  | int n => exact ⟨_, _, rfl, by simp⟩
  | double x => exact ⟨_, _, rfl, by simp⟩

theorem within_of_lt {opened : List Frame} (h : opened.length < 200)
    (r : Except Refusal (Place × List Frame)) : within .strict opened r = r := by
  rw [within, if_neg]
  simpa [Grammar.strict] using h

/-- The first item of an array is read as any other. -/
theorem foldlM_firstItem (x : Json) {opened : List Frame} (h : opened.length < 200)
    (ts : List Token) :
    (x.tokens ++ ts).foldlM (step .strict) (.firstItem, opened) =
      (x.tokens ++ ts).foldlM (step .strict) (.value, .array [] :: opened) := by
  obtain ⟨t, ts', hts, ht⟩ := exists_tokens_eq_cons x
  have hstep : step .strict (.firstItem, opened) t =
      step .strict (.value, .array [] :: opened) t := by
    cases t with
    | closeBracket => exact absurd rfl ht
    | _ => exact within_of_lt h _
  rw [hts, List.cons_append, List.foldlM_cons, List.foldlM_cons, hstep]

mutual

/-- **The machine puts a value as soon as its tokens have come.** -/
theorem foldlM_tokens : ∀ (j : Json) {room : Nat} {opened : List Frame}, Fits room j →
    room + opened.length ≤ 200 →
      j.tokens.foldlM (step .strict) (.value, opened) = .ok (put j opened)
  | .null, _, _, _, _ => rfl
  | .bool _, _, _, _, _ => rfl
  | .int _, _, _, _, _ => rfl
  | .double _, _, _, _, _ => rfl
  | .text _, _, _, _, _ => rfl
  | .array [], _, _, _, _ => rfl
  | .array (x :: xs), room, opened, .array hroom h, hle => by
    have hpos := hroom (List.cons_ne_nil x xs)
    have hlength : (Frame.array [] :: opened).length = opened.length + 1 := List.length_cons
    rw [tokens, List.foldlM_cons]
    show (x.tokens ++ itemTokens xs).foldlM (step .strict) (.firstItem, opened) = _
    rw [foldlM_firstItem x (by omega), List.foldlM_append,
      foldlM_tokens x (h x List.mem_cons_self) (by omega)]
    exact foldlM_itemTokens xs [x] (fun y hy => h y (List.mem_cons_of_mem x hy)) (by omega)
  | .object [], _, _, _, _ => rfl
  | .object ((k, x) :: ms), room, opened, .object hroom h, hle => by
    have hpos := hroom (List.cons_ne_nil (k, x) ms)
    have hlength : (Frame.member [] k :: opened).length = opened.length + 1 := List.length_cons
    have hname : step .strict (.firstName, opened) (.plain k) = .ok (.colon [] k, opened) :=
      within_of_lt (by omega) _
    rw [tokens, List.foldlM_cons]
    show (Token.plain k :: Token.colon :: (x.tokens ++ memberTokens ms)).foldlM (step .strict)
      (.firstName, opened) = _
    rw [List.foldlM_cons, hname]
    show (x.tokens ++ memberTokens ms).foldlM (step .strict) (.value, .member [] k :: opened) = _
    rw [List.foldlM_append, foldlM_tokens x (h (k, x) List.mem_cons_self) (by omega)]
    exact foldlM_memberTokens ms [(k, x)] (fun m hm => h m (List.mem_cons_of_mem _ hm)) (by omega)

theorem foldlM_itemTokens : ∀ (xs items : List Json) {room : Nat} {opened : List Frame},
    (∀ x ∈ xs, Fits room x) → room + opened.length + 1 ≤ 200 →
      (itemTokens xs).foldlM (step .strict) (.nextItem items, opened) =
        .ok (put (.array (items.reverse ++ xs)) opened)
  | [], items, _, _, _, _ => by
    rw [List.append_nil]
    rfl
  | x :: xs, items, room, opened, h, hle => by
    have hlength : (Frame.array items :: opened).length = opened.length + 1 := List.length_cons
    rw [itemTokens, List.foldlM_cons]
    show (x.tokens ++ itemTokens xs).foldlM (step .strict) (.value, .array items :: opened) = _
    rw [List.foldlM_append, foldlM_tokens x (h x List.mem_cons_self) (by omega)]
    have hrest := foldlM_itemTokens xs (x :: items)
      (fun y hy => h y (List.mem_cons_of_mem x hy)) hle
    rw [List.reverse_cons, List.append_assoc] at hrest
    exact hrest

theorem foldlM_memberTokens : ∀ (ms members : List (String × Json)) {room : Nat}
    {opened : List Frame}, (∀ m ∈ ms, Fits room m.2) → room + opened.length + 1 ≤ 200 →
      (memberTokens ms).foldlM (step .strict) (.nextMember members, opened) =
        .ok (put (.object (members.reverse ++ ms)) opened)
  | [], members, _, _, _, _ => by
    rw [List.append_nil]
    rfl
  | (k, x) :: ms, members, room, opened, h, hle => by
    have hlength : (Frame.member members k :: opened).length = opened.length + 1 :=
      List.length_cons
    rw [memberTokens, List.foldlM_cons]
    show (x.tokens ++ memberTokens ms).foldlM (step .strict) (.value, .member members k :: opened) =
      _
    rw [List.foldlM_append, foldlM_tokens x (h (k, x) List.mem_cons_self) (by omega)]
    have hrest := foldlM_memberTokens ms ((k, x) :: members)
      (fun m hm => h m (List.mem_cons_of_mem _ hm)) hle
    rw [List.reverse_cons, List.append_assoc] at hrest
    exact hrest

end

/-- **A finite value within the limits of the reader is read back.** -/
theorem read?_chars_of_isFinite {j : Json} (h : Fits 200 j) (hfinite : j.isFinite = true) :
    read? .strict j.chars = some j := by
  have hscan : scanFrom Grammar.strict.limitsDoubles [] (j.chars.map .char) =
      ((j.tokens, true), none) := by
    rw [scanFrom, scan_chars _ h hfinite]
  have hbuild : build .strict j.tokens true = .ok j := by
    rw [build, foldlM_tokens j h (by simp)]
    rfl
  have hread : read .strict j.chars = .ok (j, none) := by
    have hblocks : (if Grammar.strict.loneSurrogates then blocks else []) = [] := rfl
    simp only [read, readSymbols, hblocks, hscan, hbuild]
    rfl
  rw [read?, hread]
  rfl

/-- **A written value is read back**, with a null for what is not finite. -/
theorem read?_chars {j : Json} (h : Fits 200 j.dropNonFinite) :
    read? .strict j.chars = some j.dropNonFinite := by
  rw [← chars_dropNonFinite]
  exact read?_chars_of_isFinite h (isFinite_dropNonFinite j)

/-! ## The end of a text -/

/-- A line feed ends a word as the end of the text does, and none is let into a text token. -/
theorem Scanner.run_append_lineFeed (lexicon : Lexicon) (state : Scanner × List Token)
    (ss : List Symbol) :
    Scanner.run lexicon state (ss ++ [.char '\n']) = Scanner.run lexicon state ss := by
  induction ss generalizing state with
  | nil =>
    obtain ⟨scanner, done⟩ := state
    cases scanner with
    | between => rfl
    | word w =>
      have hchar : isWordChar '\n' = false := rfl
      cases hword : endWord lexicon w done <;>
        simp [run, step, stepChar, hchar, hword, finish, stepBetween]
    | text t => rfl
    | escape t => rfl
    | unit t high left value => rfl
    | pending t high =>
      cases hblock : lexicon.block <;> simp [run, step, stepChar, hblock, finish, stepText]
    | pendingEscape t high =>
      cases hblock : lexicon.block <;> simp [run, step, stepChar, hblock, finish, stepEscape]
  | cons s ss ih =>
    rw [List.cons_append, Scanner.run, Scanner.run]
    cases Scanner.step lexicon state s with
    | none => rfl
    | some next => exact ih next

theorem scanFrom_append_lineFeed (limitsDoubles : Bool) (blocks : List Nat) (ss : List Symbol) :
    scanFrom limitsDoubles blocks (ss ++ [.char '\n']) = scanFrom limitsDoubles blocks ss := by
  induction blocks with
  | nil => rw [scanFrom, scanFrom, scan, scan, Scanner.run_append_lineFeed]
  | cons block blocks ih =>
    rw [scanFrom, scanFrom, scan, scan, Scanner.run_append_lineFeed, ih]

/-- **A line feed at the end of a text changes nothing.** -/
theorem read?_append_lineFeed (g : Grammar) (cs : List Char) :
    read? g (cs ++ ['\n']) = read? g cs := by
  rw [read?, read?, read, read, List.map_append, List.map_singleton, readSymbols, readSymbols,
    scanFrom_append_lineFeed]

/-! ## The tokens of a text -/

/-- That a token is within the limits: a word is short enough, if it is an integer. -/
def Token.Fits (t : Token) : Prop := ∀ j, t = .word j → Json.Fits 0 j

/-- A number is within the limits. -/
theorem fits_number? {limitsDoubles : Bool} {cs : List Char} {t : Token}
    (h : number? limitsDoubles cs = some t) : t.Fits := by
  rintro j rfl
  unfold number? at h
  split at h
  next negative unsigned _ =>
  dsimp only at h
  split at h
  · cases h
  split at h
  · cases h
  next hlimit =>
  split at h
  · next hrest =>
    rw [hrest] at hlimit
    cases h
    have hdigits : ∀ d ∈ (Text.spanDigits unsigned).1, d < 10 :=
      fun d hd => Text.lt_ten_of_mem_spanDigits hd
    have hvalue := Text.ofDigits_lt hdigits
    have hlength : (Text.spanDigits unsigned).1.length ≤ Text.digitLimit :=
      Nat.le_of_not_lt fun hlt => hlimit ⟨hlt, .inr rfl⟩
    refine .int (Text.isWithinDigits_of_lt (lt_of_eq_of_lt ?_ hvalue) hlength)
    split <;> simp
  · simp only [Option.bind_eq_bind, Option.bind_eq_some_iff] at h
    obtain ⟨_, _, _, _, h⟩ := h
    cases h
    exact .double
  · simp only [Option.bind_eq_bind, Option.bind_eq_some_iff] at h
    obtain ⟨_, _, h⟩ := h
    cases h
    exact .double

theorem fits_word? {limitsDoubles : Bool} {cs : List Char} {t : Token}
    (h : word? limitsDoubles cs = some t) : t.Fits := by
  unfold word? at h
  split at h
  all_goals first
    | exact fits_number? h
    | (cases h; rintro j ⟨⟩; constructor)

section Scanner

variable {lexicon : Lexicon} {done : List Token} {state : Scanner × List Token}

theorem fits_stepBetween {c : Char} (h : ∀ t ∈ done, t.Fits)
    (hstep : Scanner.stepBetween c done = some state) : ∀ t ∈ state.2, t.Fits := by
  have hcons : ∀ {t : Token}, (∀ j, t ≠ .word j) → ∀ t' ∈ t :: done, t'.Fits := by
    intro t hword t' ht'
    rcases List.mem_cons.1 ht' with rfl | ht'
    · exact fun j hj => absurd hj (hword j)
    · exact h t' ht'
  unfold Scanner.stepBetween at hstep
  split_ifs at hstep
  all_goals cases hstep
  all_goals first
    | exact h
    | exact hcons (by simp)

theorem fits_stepText {t : Scanned} {c : Char} (h : ∀ t ∈ done, t.Fits)
    (hstep : Scanner.stepText lexicon t c done = some state) : ∀ t ∈ state.2, t.Fits := by
  unfold Scanner.stepText at hstep
  split_ifs at hstep
  · cases hstep
    intro t' ht'
    rcases List.mem_cons.1 ht' with rfl | ht'
    · rintro j ⟨⟩
    · exact h t' ht'
  · cases hstep
    exact h
  · cases hstep
    exact h

theorem snd_stepEscape {t : Scanned} {c : Char}
    (hstep : Scanner.stepEscape lexicon t c done = some state) : state.2 = done := by
  unfold Scanner.stepEscape at hstep
  dsimp only at hstep
  split_ifs at hstep
  all_goals
    cases hstep
    rfl

theorem fits_endWord {reversed : List Char} {tokens : List Token} (h : ∀ t ∈ done, t.Fits)
    (hend : Scanner.endWord lexicon reversed done = some tokens) : ∀ t ∈ tokens, t.Fits := by
  obtain ⟨word, hword, rfl⟩ := Option.map_eq_some_iff.1 hend
  intro t ht
  rcases List.mem_cons.1 ht with rfl | ht
  · exact fits_word? hword
  · exact h t ht

/-- One character keeps the tokens within the limits. -/
theorem fits_stepChar {next : Scanner × List Token} {c : Char} (h : ∀ t ∈ state.2, t.Fits)
    (hstep : Scanner.stepChar lexicon state c = some next) : ∀ t ∈ next.2, t.Fits := by
  obtain ⟨scanner, done⟩ := state
  cases scanner with
  | between => exact fits_stepBetween h hstep
  | word reversed =>
    simp only [Scanner.stepChar] at hstep
    split at hstep
    · cases hstep
      exact h
    · obtain ⟨tokens, hend, hbetween⟩ := Option.bind_eq_some_iff.1 hstep
      exact fits_stepBetween (fits_endWord h hend) hbetween
  | text t => exact fits_stepText h hstep
  | escape t => exact (snd_stepEscape hstep) ▸ h
  | unit t high left value =>
    obtain ⟨d, -, hunit⟩ := Option.bind_eq_some_iff.1 hstep
    split at hunit
    · obtain ⟨_, -, rfl⟩ := Option.map_eq_some_iff.1 hunit
      exact h
    · cases hunit
      exact h
  | pending t high =>
    simp only [Scanner.stepChar] at hstep
    split at hstep
    · cases hstep
      exact h
    · obtain ⟨block, -, htext⟩ := Option.bind_eq_some_iff.1 hstep
      exact fits_stepText h htext
  | pendingEscape t high =>
    simp only [Scanner.stepChar] at hstep
    split at hstep
    · cases hstep
      exact h
    · obtain ⟨block, -, hescape⟩ := Option.bind_eq_some_iff.1 hstep
      exact (snd_stepEscape hescape) ▸ h

theorem snd_stepLone {next : Scanner × List Token} {surrogate : Nat}
    (hstep : Scanner.stepLone lexicon surrogate state = some next) : next.2 = state.2 := by
  unfold Scanner.stepLone at hstep
  split at hstep
  · obtain ⟨_, -, rfl⟩ := Option.map_eq_some_iff.1 hstep
    rfl
  · obtain ⟨_, -, rfl⟩ := Option.map_eq_some_iff.1 hstep
    rfl
  · cases hstep

theorem fits_finish {tokens : List Token} (h : ∀ t ∈ state.2, t.Fits)
    (hfinish : Scanner.finish lexicon state = some tokens) : ∀ t ∈ tokens, t.Fits := by
  unfold Scanner.finish at hfinish
  split at hfinish
  · cases hfinish
    exact h
  · exact fits_endWord h hfinish
  · cases hfinish

/-- **The tokens of a text are within the limits.** -/
theorem fits_run {ss : List Symbol} (h : ∀ t ∈ state.2, t.Fits) :
    ∀ t ∈ (Scanner.run lexicon state ss).1, t.Fits := by
  induction ss generalizing state with
  | nil =>
    unfold Scanner.run
    split
    · next tokens hfinish =>
      intro t ht
      exact fits_finish h hfinish t (List.mem_reverse.1 ht)
    · intro t ht
      exact h t (List.mem_reverse.1 ht)
  | cons s ss ih =>
    unfold Scanner.run
    split
    · next next hstep =>
      refine ih ?_
      cases s with
      | char c => exact fits_stepChar h hstep
      | lone surrogate => exact (snd_stepLone hstep) ▸ h
    · intro t ht
      exact h t (List.mem_reverse.1 ht)

end Scanner

/-! ## The values of tokens -/

section Limits

/-- **That what is in the open arrays and objects is within the limits.** -/
def FramesFit (limit : Nat) : List Frame → Prop
  | [] => True
  | frame :: frames =>
    frames.length + 1 ≤ limit ∧ FramesFit limit frames ∧
      match frame with
      | .array items => ∀ x ∈ items, Fits (limit - (frames.length + 1)) x
      | .member members _ => ∀ m ∈ members, Fits (limit - (frames.length + 1)) m.2

/-- **That what the machine holds is within the limits.** -/
def PlaceFits (limit : Nat) : Place × List Frame → Prop
  | (.nextItem items, opened) =>
    opened.length < limit ∧ ∀ x ∈ items, Fits (limit - (opened.length + 1)) x
  | (.nextMember members, opened) | (.name members, opened) | (.colon members _, opened) =>
    opened.length < limit ∧ ∀ m ∈ members, Fits (limit - (opened.length + 1)) m.2
  | (.ended j, _) => Fits limit j
  | _ => True

/-- What the machine holds, with what is open. -/
def StateFits (limit : Nat) (state : Place × List Frame) : Prop :=
  PlaceFits limit state ∧ FramesFit limit state.2

variable {g : Grammar} {limit : Nat}

theorem stateFits_put {j : Json} {opened : List Frame} (h : FramesFit limit opened)
    (hj : Fits (limit - opened.length) j) : StateFits limit (put j opened) := by
  match opened, h with
  | [], _ => exact ⟨hj, trivial⟩
  | .array items :: frames, ⟨hlength, hframes, hitems⟩ =>
    refine ⟨⟨hlength, fun x hx => ?_⟩, hframes⟩
    rcases List.mem_cons.1 hx with rfl | hx
    · exact hj
    · exact hitems x hx
  | .member members name :: frames, ⟨hlength, hframes, hmembers⟩ =>
    refine ⟨⟨hlength, fun m hm => ?_⟩, hframes⟩
    rcases List.mem_cons.1 hm with rfl | hm
    · exact hj
    · exact hmembers m hm

theorem stateFits_start {t : Token} {opened : List Frame} {state : Place × List Frame}
    (h : FramesFit limit opened) (ht : t.Fits) (hstart : start opened t = .ok state) :
    StateFits limit state := by
  unfold start at hstart
  split at hstart
  · cases hstart
    exact stateFits_put h ((ht _ rfl).mono (Nat.zero_le _))
  · cases hstart
    exact stateFits_put h .text
  · cases hstart
    exact ⟨trivial, h⟩
  · cases hstart
    exact ⟨trivial, h⟩
  · cases hstart
  · cases hstart

/-- The members of an object are among those that were read. -/
theorem exists_objectOf (g : Grammar) (reversed : List (String × Json)) :
    ∃ members, g.objectOf reversed = .object members ∧ ∀ m ∈ members, m ∈ reversed := by
  refine ⟨_, rfl, fun m hm => ?_⟩
  split at hm
  · exact List.mem_reverse.1 hm
  · exact List.mem_reverse.1 (Dict.mem_of_mem_ofList hm)

section Steps

variable (hg : g.nesting = some limit)

include hg

theorem lt_of_within {opened : List Frame} {r : Except Refusal (Place × List Frame)}
    {state : Place × List Frame} (h : within g opened r = .ok state) :
    opened.length < limit ∧ r = .ok state := by
  unfold within at h
  split at h
  · cases h
  · next hlt =>
    refine ⟨?_, h⟩
    simpa [hg] using hlt

/-- **One token keeps the machine within the limits.** -/
theorem stateFits_step {state next : Place × List Frame} {t : Token} (h : StateFits limit state)
    (ht : t.Fits) (hstep : step g state t = .ok next) : StateFits limit next := by
  obtain ⟨place, opened⟩ := state
  obtain ⟨hplace, hopened⟩ := h
  unfold step at hstep
  split at hstep
  · next heq =>
    cases heq
    exact stateFits_start hopened ht hstep
  · next heq =>
    cases heq
    cases hstep
    exact stateFits_put hopened (.array (fun hne => absurd rfl hne) (by simp))
  · next heq _ =>
    cases heq
    obtain ⟨hlt, hstart⟩ := lt_of_within hg hstep
    refine stateFits_start ?_ ht hstart
    exact ⟨hlt, hopened, by simp⟩
  · next items _ heq =>
    cases heq
    cases hstep
    exact ⟨trivial, hplace.1, hopened, hplace.2⟩
  · next items _ heq =>
    cases heq
    cases hstep
    refine stateFits_put hopened (.array (fun _ => Nat.sub_pos_of_lt hplace.1) ?_)
    intro x hx
    rw [Nat.sub_sub]
    exact hplace.2 x (List.mem_reverse.1 hx)
  · next heq =>
    cases heq
    cases hstep
    exact stateFits_put hopened (.object (fun hne => absurd rfl hne) (by simp))
  · next heq =>
    cases heq
    obtain ⟨hlt, hcolon⟩ := lt_of_within hg hstep
    cases hcolon
    exact ⟨⟨hlt, by simp⟩, hopened⟩
  · next heq =>
    cases heq
    cases hstep
    exact ⟨hplace, hopened⟩
  · next heq =>
    cases heq
    cases hstep
    exact ⟨trivial, hplace.1, hopened, hplace.2⟩
  · next heq =>
    cases heq
    cases hstep
    exact ⟨hplace, hopened⟩
  · next members _ heq =>
    cases heq
    cases hstep
    obtain ⟨read, hobject, hread⟩ := exists_objectOf g members
    rw [hobject]
    refine stateFits_put hopened (.object (fun _ => Nat.sub_pos_of_lt hplace.1) ?_)
    intro m hm
    rw [Nat.sub_sub]
    exact hplace.2 m (hread m hm)
  · cases hstep

/-- The machine stays within the limits. -/
theorem stateFits_foldlM {ts : List Token} {state next : Place × List Frame}
    (h : StateFits limit state) (hts : ∀ t ∈ ts, t.Fits)
    (hrun : ts.foldlM (step g) state = .ok next) : StateFits limit next := by
  induction ts generalizing state with
  | nil =>
    cases hrun
    exact h
  | cons t ts ih =>
    rw [List.foldlM_cons] at hrun
    cases hstep : step g state t with
    | error e =>
      rw [hstep] at hrun
      cases hrun
    | ok middle =>
      rw [hstep] at hrun
      exact ih (stateFits_step hg h (hts t List.mem_cons_self) hstep)
        (fun t ht => hts t (List.mem_cons_of_mem _ ht)) hrun

theorem fits_of_build {ts : List Token} {whole : Bool} {j : Json} (hts : ∀ t ∈ ts, t.Fits)
    (h : build g ts whole = .ok j) : Fits limit j := by
  rw [build] at h
  cases hrun : ts.foldlM (step g) (.value, []) with
  | error e =>
    rw [hrun] at h
    cases h
  | ok state =>
    rw [hrun] at h
    have hstart : StateFits limit (.value, []) := ⟨trivial, trivial⟩
    obtain ⟨hplace, -⟩ := stateFits_foldlM hg hstart hts hrun
    change finish whole state = .ok j at h
    unfold finish at h
    split at h
    · cases h
      exact hplace
    · cases h

omit hg in
/-- The tokens of a text are within the limits, whatever block stands for its lone surrogates. -/
theorem fits_scanFrom (limitsDoubles : Bool) (blocks : List Nat) (ss : List Symbol) :
    ∀ t ∈ (scanFrom limitsDoubles blocks ss).1.1, t.Fits := by
  have hscan : ∀ block, ∀ t ∈ (scan ⟨block, limitsDoubles⟩ ss).1, t.Fits := fun block =>
    fits_run (by simp)
  induction blocks with
  | nil => exact hscan none
  | cons block blocks ih =>
    have hblock := hscan (some block)
    rw [scanFrom]
    generalize scan ⟨some block, limitsDoubles⟩ ss = scanned at hblock ⊢
    obtain ⟨ts, whole⟩ := scanned
    dsimp only
    split
    · split
      · exact ih
      · exact hblock
    · exact hblock

/-- **What is read of a message or a document is within the limits** of its grammar. -/
theorem fits_of_readSymbols {ss : List Symbol} {j : Json} {block : Option Nat}
    (h : readSymbols g ss = .ok (j, block)) : Fits limit j := by
  have hts := fits_scanFrom g.limitsDoubles (if g.loneSurrogates then blocks else []) ss
  unfold readSymbols at h
  generalize scanFrom g.limitsDoubles (if g.loneSurrogates then blocks else []) ss = scanned at h hts
  obtain ⟨⟨ts, whole⟩, block'⟩ := scanned
  cases hbuild : build g ts whole with
  | error e =>
    simp only [hbuild] at h
    cases h
  | ok j' =>
    simp only [hbuild] at h
    cases h
    exact fits_of_build hg hts hbuild

end Steps

end Limits

/-- **What is read is within the limits of the reader.** -/
theorem fits_of_read? {cs : List Char} {j : Json} (h : read? .strict cs = some j) :
    Fits 200 j := by
  rw [read?, read] at h
  cases hread : readSymbols .strict (cs.map .char) with
  | error e =>
    rw [hread] at h
    cases h
  | ok p =>
    rw [hread] at h
    cases h
    exact fits_of_readSymbols rfl hread

end Json

end ExperimentGroups
