import Rollout.Proofs.Yaml.Block
import Rollout.Proofs.Yaml.Plain
import Rollout.Proofs.Yaml.Quoted
import Rollout.Yaml.Token.Scan

/-!
The tokens of a printed document. Between two values the scanner is in a `block` state: no flow
collection is open and no key is pending. A run is followed from one such state to the next, and
what the rest of the text yields is handed through as a hypothesis.
-/

namespace Rollout.Yaml

open Printer (indentation isPrintable isSpace)

/-- A place before the next key: at the key itself, or at the end of the line before it. A key is
allowed in the first case, and in the second it will be after the line break. -/
def Cursor.Before (cursor : Cursor) (keyAllowed : Bool) (text : List Char) : Prop :=
  (cursor.Landed text ∧ keyAllowed = true) ∨ (cursor.rest = '\n' :: text ∧ keyAllowed = false)

/-- A text that begins with the first character of a token, if with any. -/
def StartsToken (text : List Char) : Prop :=
  ∀ c, text.head? = some c → isBlank c = false ∧ isBreak c = false ∧ c ≠ '#' ∧ c ≠ '\ufeff'

theorem startsToken_of_isLetter {text : List Char}
    (hletter : ∀ c, text.head? = some c → isLetter c) : StartsToken text := by
  intro c hc
  have hc := hletter c hc
  exact ⟨isBlank_of_isLetter hc, isBreak_of_isLetter hc, ne_of_isLetter hc _ (by decide),
    ne_of_isLetter hc _ (by decide)⟩

namespace Scanner

/-- A scanner between the values of a document. -/
def block (cursor : Cursor) (keyAllowed : Bool) (indent : Option Nat) (outer : List (Option Nat))
    (tokens : List Token) : Scanner where
  cursor
  indent
  outer
  keyAllowed
  candidate := none
  outerCandidates := []
  tokens
  count := tokens.length

@[simp] theorem block_cursor (cursor : Cursor) (keyAllowed : Bool) (indent : Option Nat)
    (outer : List (Option Nat)) (tokens : List Token) :
    (block cursor keyAllowed indent outer tokens).cursor = cursor := rfl

@[simp] theorem block_indent (cursor : Cursor) (keyAllowed : Bool) (indent : Option Nat)
    (outer : List (Option Nat)) (tokens : List Token) :
    (block cursor keyAllowed indent outer tokens).indent = indent := rfl

@[simp] theorem block_inFlow (cursor : Cursor) (keyAllowed : Bool) (indent : Option Nat)
    (outer : List (Option Nat)) (tokens : List Token) :
    (block cursor keyAllowed indent outer tokens).inFlow = false := rfl

theorem dropCandidate_block (cursor : Cursor) (keyAllowed : Bool) (indent : Option Nat)
    (outer : List (Option Nat)) (tokens : List Token) :
    (block cursor keyAllowed indent outer tokens).dropCandidate =
      some (block cursor keyAllowed indent outer tokens) := rfl

/-- After a colon no key may begin on the same line. -/
theorem saveCandidate_block (cursor : Cursor) (indent : Option Nat) (outer : List (Option Nat))
    (tokens : List Token) :
    (block cursor false indent outer tokens).saveCandidate =
      some (block cursor false indent outer tokens) := rfl

theorem start_eq_block (text : List Char) :
    start text = block (Cursor.start text) true none [] [] :=
  rfl

/-- Given enough steps, the rest of the run yields these tokens. -/
def Yields (s : Scanner) (tokens : List Token) : Prop :=
  ∀ fuel, s.cursor.left < fuel → s.run fuel = some tokens

/-! ### White space -/

theorem skipGap_spaces {s : Scanner} {count : Nat} {rest : List Char} (fuel : Nat)
    (hrest : s.cursor.rest = indentation count ++ rest) (hstarts : StartsToken rest) :
    skipGap (fuel + 1) s = { s with cursor := s.cursor.skip count } := by
  have hmark : s.cursor.skipMark = s.cursor := by
    apply Cursor.skipMark_eq_self
    intro c hc
    cases count with
    | zero => exact (hstarts c (by simpa [hrest, indentation] using hc)).2.2.2
    | succ count =>
        have hspace : ' ' = c := by simpa [hrest, indentation, List.replicate_succ] using hc
        rw [← hspace]
        decide
  have hblanks : s.cursor.skipWhile
      (fun c => c == ' ' || ((s.inFlow || !s.keyAllowed) && c == '\t')) = s.cursor.skip count := by
    apply Cursor.skipWhile_spaces (by simp) hrest
    intro c hc
    have hblank := (hstarts c hc).1
    simp only [isBlank, Bool.or_eq_false_iff, decide_eq_false_iff_not] at hblank
    simp [hblank.1, hblank.2]
  have hafter : (s.cursor.skip count).rest = rest := Cursor.rest_skip_indentation hrest
  have hhash : (s.cursor.skip count).rest.head? ≠ some '#' := by
    rw [hafter]
    exact fun hc => (hstarts '#' hc).2.2.1 rfl
  rw [skipGap]
  simp only [hmark, hblanks, if_neg hhash]
  rw [hafter]
  cases rest with
  | nil => rfl
  | cons c rest => simp [(hstarts c rfl).2.1]

theorem skipGap_stop {s : Scanner} (fuel : Nat) (hstarts : StartsToken s.cursor.rest) :
    skipGap (fuel + 1) s = s := by
  rw [@skipGap_spaces s 0 s.cursor.rest fuel rfl hstarts, Cursor.skip_zero]

/-- The end of a line. Outside of flow collections a key may begin on the next one. -/
theorem skipGap_lineFeed {s : Scanner} {rest : List Char} (fuel : Nat)
    (hrest : s.cursor.rest = '\n' :: rest) :
    skipGap (fuel + 1) s = skipGap fuel
      { s with cursor := s.cursor.nextLine 1, keyAllowed := s.keyAllowed || !s.inFlow } := by
  have hmark : s.cursor.skipMark = s.cursor := Cursor.skipMark_eq_self (by simp [hrest])
  have hblanks : s.cursor.skipWhile
      (fun c => c == ' ' || ((s.inFlow || !s.keyAllowed) && c == '\t')) = s.cursor :=
    Cursor.skipWhile_eq_self (by simp [hrest])
  have hhash : s.cursor.rest.head? ≠ some '#' := by simp [hrest]
  rw [skipGap]
  simp only [hmark, hblanks, if_neg hhash]
  rw [hrest]
  simp [isBreak, Cursor.skipBreak_eq_nextLine hrest]

/-- Before a key, white space is skipped up to the key or the end of the text. -/
theorem skipGap_before {limit : Nat} {text : List Char} {cursor : Cursor} {keyAllowed : Bool}
    (hcontinues : Continues limit text) (hbefore : cursor.Before keyAllowed text) :
    ∃ next : Cursor, next.Landed text ∧ next.left ≤ cursor.left ∧ ∀ indent outer tokens,
      skipGap (cursor.left + 1) (block cursor keyAllowed indent outer tokens) =
        block next true indent outer tokens := by
  obtain ⟨width, rest, -, rfl, hlanded, hhead⟩ := hcontinues.shape
  have hstarts := startsToken_of_isLetter hhead
  rcases hbefore with ⟨hland, rfl⟩ | ⟨hrest, rfl⟩
  · refine ⟨cursor, hland, Nat.le_refl _, fun indent outer tokens => skipGap_stop _ ?_⟩
    intro c hc
    exact hstarts c (((hlanded cursor).mp hland).1 ▸ hc)
  · have hnext : (cursor.nextLine 1).rest = indentation width ++ rest := by simp [hrest]
    have hleft := Cursor.left_of_rest hrest
    refine ⟨(cursor.nextLine 1).skip width, ?_, ?_, fun indent outer tokens => ?_⟩
    · exact (hlanded _).mpr ⟨Cursor.rest_skip_indentation hnext, by simp⟩
    · simp only [Cursor.skip_left, Cursor.nextLine_left]
      omega
    · obtain ⟨fuel, hfuel⟩ : ∃ fuel, cursor.left = fuel + 1 := ⟨_, hleft⟩
      have hstart : (block cursor false indent outer tokens).cursor.rest =
          '\n' :: (indentation width ++ rest) := hrest
      rw [hfuel, skipGap_lineFeed _ hstart, skipGap_spaces fuel hnext hstarts]
      rfl

/-! ### Indentation -/

section Indentation

variable {cursor : Cursor} {keyAllowed : Bool} {indent : Option Nat} {outer : List (Option Nat)}
  {tokens result : List Token}

/-- No collection is left for a column that is not to the left of the innermost one. -/
theorem unrollIndent_stay {s : Scanner} {isOpen : Nat → Bool}
    (hstay : ∀ own, s.indent = some own → isOpen own = false) : s.unrollIndent isOpen = s := by
  have hleave : leaveWhile isOpen s.indent s.outer = (s.indent, s.outer, 0) := by
    unfold leaveWhile
    split
    · next own next outer hindent houter =>
        simp [hstay own hindent, hindent, houter]
    · rfl
  unfold unrollIndent
  rw [hleave]
  simp

/-- A collection that is left may as well have been closed before. -/
theorem unrollIndent_close {inner : Nat} {isOpen : Nat → Bool} (hopen : isOpen inner) :
    (block cursor keyAllowed (some inner) (indent :: outer) tokens).unrollIndent isOpen =
      (block cursor keyAllowed indent outer (.blockEnd :: tokens)).unrollIndent isOpen := by
  obtain ⟨own, left, count, hleave⟩ : ∃ own left count,
      leaveWhile isOpen indent outer = (own, left, count) := ⟨_, _, _, rfl⟩
  have hinner : leaveWhile isOpen (some inner) (indent :: outer) = (own, left, count + 1) := by
    rw [leaveWhile, if_pos hopen, hleave]
  simp only [unrollIndent, block, hinner, hleave]
  simp only [inFlow, List.isEmpty_nil, Bool.not_true, Bool.false_eq_true, if_false,
    List.length_cons, Nat.add_comm count 1, Nat.add_assoc]
  rw [Nat.add_comm 1 count, List.replicate_succ', List.append_assoc]
  rfl

/-! ### Runs -/

theorem Yields.token {s spaced next : Scanner} {c : Char} {rest : List Char}
    (hgap : skipGap (s.cursor.left + 1) s = spaced) (hrest : spaced.cursor.rest = c :: rest)
    (hfetch : (spaced.unrollIndent fun column => decide (spaced.cursor.column < column)).fetchToken
      c rest = some next)
    (hless : next.cursor.left < s.cursor.left) (hnext : Yields next result) : Yields s result := by
  intro fuel hfuel
  obtain ⟨fuel, rfl⟩ := Nat.exists_eq_add_of_lt (Nat.zero_lt_of_lt hfuel)
  rw [Nat.zero_add, run, hgap]
  simp only [hrest, hfetch, Option.bind_eq_bind, Option.bind_some]
  exact hnext fuel (by omega)

/-- The end of the text, when all collections are closed. -/
theorem Yields.done (hbefore : cursor.Before keyAllowed []) :
    Yields (block cursor keyAllowed none outer tokens) tokens.reverse := by
  intro fuel hfuel
  obtain ⟨fuel, rfl⟩ := Nat.exists_eq_add_of_lt (Nat.zero_lt_of_lt hfuel)
  obtain ⟨next, hlanded, -, hgap⟩ := @skipGap_before 0 [] cursor keyAllowed (Or.inl rfl) hbefore
  have hrest : next.rest = [] := hlanded.rest
  have hstay : (block next true none outer tokens).unrollIndent (fun _ => true) =
      block next true none outer tokens := unrollIndent_stay (by simp [block])
  rw [Nat.zero_add, run, block_cursor, hgap]
  simp only [hstay]
  simp [block, hrest, dropCandidate]

/-- Before a key to its left or the end, a collection may as well have been closed. -/
theorem Yields.close {limit inner : Nat} {text : List Char} (hlimit : text = [] ∨ limit < inner)
    (hcontinues : Continues limit text) (hbefore : cursor.Before keyAllowed text)
    (hclosed : Yields (block cursor keyAllowed indent outer (.blockEnd :: tokens)) result) :
    Yields (block cursor keyAllowed (some inner) (indent :: outer) tokens) result := by
  intro fuel hfuel
  rw [← hclosed fuel hfuel]
  obtain ⟨fuel, rfl⟩ := Nat.exists_eq_add_of_lt (Nat.zero_lt_of_lt hfuel)
  obtain ⟨next, hlanded, -, hgap⟩ := skipGap_before hcontinues hbefore
  have hend := @unrollIndent_close next true indent outer tokens inner (fun _ => true) rfl
  rw [Nat.zero_add, run, run, block_cursor, block_cursor, hgap, hgap]
  simp only [block_cursor]
  cases hrest : next.rest with
  | nil => rw [hend]
  | cons c rest =>
      obtain ⟨width, more, hwidth, rfl, hlands, -⟩ := hcontinues.shape
      have hplace := (hlands next).mp hlanded
      have hcolumn : next.column < inner := by
        rcases hlimit with hnil | hlimit
        · have hmore : more = [] := (List.append_eq_nil_iff.mp hnil).2
          rw [hplace.1, hmore] at hrest
          cases hrest
        · omega
      have hnext := @unrollIndent_close next true indent outer tokens inner
        (fun column => decide (next.column < column)) (decide_eq_true hcolumn)
      exact congrArg (fun s : Scanner => (s.fetchToken c rest).bind fun s => run fuel s) hnext

end Indentation

/-! ### Which token begins -/

/-- A character that begins a plain scalar before `rest`. -/
structure StartsPlain (c : Char) (rest : List Char) : Prop where
  indicator : "#,[]\x7b\x7d&*!|>'\"%@\x60".toList.contains c = false
  word : "-?:".toList.contains c → endsWord rest = false
  blank : isBlank c = false
  unbroken : isBreak c = false

namespace StartsPlain

variable {c : Char} {rest : List Char}

theorem append (hstarts : StartsPlain c rest) (more : List Char) : StartsPlain c (rest ++ more) :=
  { hstarts with word := fun hc => endsWord_append more (hstarts.word hc) }

theorem beq_indicator (hstarts : StartsPlain c rest) {d : Char}
    (hd : d ∈ "#,[]\x7b\x7d&*!|>'\"%@\x60".toList) : (c == d) = false := by
  cases hc : c == d with
  | false => rfl
  | true =>
      obtain rfl : c = d := by simpa using hc
      have hmem := hstarts.indicator
      simp only [List.contains_eq_mem, hd, decide_true] at hmem
      cases hmem

theorem beq_mark (hstarts : StartsPlain c rest) {d : Char} (hd : d ∈ "-?:".toList) :
    (c == d && endsWord rest) = false := by
  cases hc : c == d with
  | false => rfl
  | true =>
      obtain rfl : c = d := by simpa using hc
      exact hstarts.word (by simpa using hd)

theorem startsPlain (hstarts : StartsPlain c rest) : Scanner.startsPlain false c rest = true := by
  unfold Scanner.startsPlain
  split
  · next hc =>
      have hends := hstarts.word (by simp_all)
      cases rest with
      | nil => rfl
      | cons d rest =>
          simp only [endsWord, Bool.or_eq_false_iff] at hends
          simp [hends.1]
  · split
    · next hc =>
        have hends := hstarts.word (by simp_all)
        simp [hends]
    · have hlist : ",[]\x7b\x7d#&*!|>'\"%@\x60".toList.contains c = false := by
        have hsubset : ",[]\x7b\x7d#&*!|>'\"%@\x60".toList.all
            "#,[]\x7b\x7d&*!|>'\"%@\x60".toList.contains := by decide
        cases hc : ",[]\x7b\x7d#&*!|>'\"%@\x60".toList.contains c with
        | false => rfl
        | true =>
            have hmem := List.all_eq_true.mp hsubset c (List.contains_iff_mem.mp hc)
            simpa using hstarts.beq_indicator (List.contains_iff_mem.mp hmem)
      rw [hstarts.blank, hstarts.unbroken, hlist]
      rfl

end StartsPlain

section Fetch

variable {s : Scanner} {c : Char} {rest : List Char}

theorem fetchToken_plain (hflow : s.inFlow = false) (hdash : s.cursor.atMarker '-' = false)
    (hdot : s.cursor.atMarker '.' = false) (hstarts : StartsPlain c rest) :
    s.fetchToken c rest = s.fetchPlain := by
  have hne : ∀ d ∈ "#,[]\x7b\x7d&*!|>'\"%@\x60".toList, (c == d) = false :=
    fun d hd => hstarts.beq_indicator hd
  have hword : ∀ d ∈ "-?:".toList, (c == d && endsWord rest) = false :=
    fun d hd => hstarts.beq_mark hd
  simp only [fetchToken, hflow, hdash, hdot, hstarts.startsPlain, hne '%' (by decide),
    hne '[' (by decide), hne '\x7b' (by decide), hne ']' (by decide), hne '\x7d' (by decide),
    hne ',' (by decide), hword '-' (by decide), hword '?' (by decide), hword ':' (by decide),
    hne '*' (by decide), hne '&' (by decide), hne '!' (by decide), hne '|' (by decide),
    hne '>' (by decide), hne '\x27' (by decide), hne '"' (by decide), Bool.and_false,
    Bool.false_and, Bool.false_or, Bool.false_eq_true, if_false, if_true]

theorem fetchToken_literal (hflow : s.inFlow = false) (hdash : s.cursor.atMarker '-' = false)
    (hdot : s.cursor.atMarker '.' = false) :
    s.fetchToken '|' rest = s.fetchBlockScalar .literal := by
  simp [fetchToken, hflow, hdash, hdot]

theorem fetchToken_single (hdash : s.cursor.atMarker '-' = false)
    (hdot : s.cursor.atMarker '.' = false) :
    s.fetchToken '\x27' rest = s.fetchQuoted .singleQuoted := by
  simp [fetchToken, hdash, hdot]

theorem fetchToken_double (hdash : s.cursor.atMarker '-' = false)
    (hdot : s.cursor.atMarker '.' = false) :
    s.fetchToken '"' rest = s.fetchQuoted .doubleQuoted := by
  simp [fetchToken, hdash, hdot]

theorem fetchToken_value (hdash : s.cursor.atMarker '-' = false)
    (hdot : s.cursor.atMarker '.' = false) (hends : endsWord rest) :
    s.fetchToken ':' rest = s.fetchValue := by
  simp [fetchToken, hdash, hdot, hends]

end Fetch

/-! ### Values on one line -/

section Values

variable {column limit : Nat} {outer : List (Option Nat)} {tokens result : List Token}
  {tail : List Char}

/-- What fetching a value comes to: its token, and a place before the next key. -/
def Fetches (column : Nat) (outer : List (Option Nat)) (tokens : List Token) (token : Token)
    (c : Char) (rest tail : List Char) : Prop :=
  ∀ start : Cursor, start.rest = c :: rest → column < start.column →
    ∃ after keyAllowed, (block start false (some column) outer tokens).fetchToken c rest =
        some (block after keyAllowed (some column) outer (token :: tokens)) ∧
      after.Before keyAllowed tail ∧ after.left ≤ start.left

/-- The value after a key and its colon. -/
theorem Yields.scalar {cursor : Cursor} {token : Token} {c : Char} {rest : List Char}
    (hfetch : Fetches column outer tokens token c rest tail) (hstarts : StartsToken (c :: rest))
    (hrest : cursor.rest = ' ' :: c :: rest) (hcolumn : column < cursor.column)
    (hnext : ∀ (next : Cursor) (keyAllowed : Bool), next.Before keyAllowed tail →
      Yields (block next keyAllowed (some column) outer (token :: tokens)) result) :
    Yields (block cursor false (some column) outer tokens) result := by
  obtain ⟨after, keyAllowed, htoken, hbefore, hleft⟩ :=
    hfetch (cursor.skip 1) (by simp [hrest]) (by simp only [Cursor.skip_column]; omega)
  have hgap : skipGap (cursor.left + 1) (block cursor false (some column) outer tokens) =
      block (cursor.skip 1) false (some column) outer tokens :=
    @skipGap_spaces (block cursor false (some column) outer tokens) 1 (c :: rest) cursor.left
      hrest hstarts
  have hstay : (block (cursor.skip 1) false (some column) outer tokens).unrollIndent
      (fun own => decide ((cursor.skip 1).column < own)) =
        block (cursor.skip 1) false (some column) outer tokens := by
    apply unrollIndent_stay
    intro own hown
    obtain rfl : column = own := Option.some.inj hown
    apply decide_eq_false
    simp only [Cursor.skip_column]
    omega
  have hspaced : (block (cursor.skip 1) false (some column) outer tokens).cursor.rest =
      c :: rest := by simp [hrest]
  have hless : after.left < cursor.left := by
    have hpositive := Cursor.left_of_rest hrest
    simp only [List.length_cons] at hpositive
    simp only [Cursor.skip_left] at hleft
    omega
  refine Yields.token hgap hspaced ?_ hless (hnext after keyAllowed hbefore)
  rw [block_cursor, hstay]
  exact htoken

/-- A text that stands plain on the line of its key. -/
structure PlainScalar (c : Char) (rest : List Char) : Prop where
  starts : StartsPlain c rest
  plain : PlainRest (c :: rest)

theorem PlainScalar.startsToken {c : Char} {rest : List Char} (hplain : PlainScalar c rest)
    (more : List Char) : StartsToken (c :: rest ++ more) := by
  intro d hd
  obtain rfl : c = d := by simpa using hd
  refine ⟨hplain.starts.blank, hplain.starts.unbroken, (hplain.plain.head c rfl).1, ?_⟩
  rintro rfl
  exact absurd (hplain.plain.printable _ List.mem_cons_self) (by decide)

theorem fetches_plain {c : Char} {rest : List Char} (hplain : PlainScalar c rest)
    (hlimit : limit ≤ column) (hcontinues : Continues limit tail) :
    Fetches column outer tokens (.scalar .plain (String.ofList (c :: rest))) c
      (rest ++ '\n' :: tail) tail := by
  intro start hrest hcolumn
  have hstarts := hplain.starts.append ('\n' :: tail)
  have hmarker : ∀ mark, start.atMarker mark = false :=
    fun mark => Cursor.not_atMarker mark (by omega)
  obtain ⟨after, hread, hlanded⟩ := readPlain_rest hcontinues (Nat.lt_succ_of_le hlimit) (c :: rest)
    [] .none start (start.left + 1) (List.cons_ne_nil c rest) hplain.plain hrest hcolumn
    (Nat.lt_succ_self _)
  refine ⟨after, true, ?_, Or.inl ⟨hlanded, rfl⟩, ?_⟩
  · rw [fetchToken_plain rfl (hmarker '-') (hmarker '.') hstarts, fetchPlain,
      saveCandidate_block]
    simp only [Option.bind_eq_bind, Option.bind_some, block_cursor, block_indent, block_inFlow,
      hread]
    rfl
  · have hleft := Cursor.left_of_rest hrest
    have hafter := hlanded.left_le
    simp only [List.length_cons, List.length_append] at hleft
    omega

theorem fetches_single {text : List Char} (hsingle : SingleRest text) :
    Fetches column outer tokens (.scalar .singleQuoted (String.ofList text)) '\x27'
      (Printer.singleBody (column + 2) false text ++ '\x27' :: '\n' :: tail) tail := by
  intro start hrest hcolumn
  have hmarker : ∀ mark, start.atMarker mark = false :=
    fun mark => Cursor.not_atMarker mark (by omega)
  have hopened : (start.skip 1).rest =
      Printer.singleBody (column + 2) false text ++ '\x27' :: '\n' :: tail := by simp [hrest]
  obtain ⟨after, hread, hafter⟩ :=
    readQuoted_single (show 0 < column + 2 by omega) (by simp) text []
    (start.skip 1) (2 * (start.skip 1).left + 2) hsingle hopened
    (by simp only [Cursor.skip_column]; omega) (by omega)
  refine ⟨after, false, ?_, Or.inr ⟨hafter, rfl⟩, ?_⟩
  · rw [fetchToken_single (hmarker _) (hmarker _), fetchQuoted, saveCandidate_block]
    simp only [Option.bind_eq_bind, Option.bind_some, block_cursor, beq_self_eq_true, hread]
    rfl
  · have hleft := Cursor.left_of_rest hrest
    have hleftAfter := Cursor.left_of_rest hafter
    simp only [List.length_cons, List.length_append] at hleft hleftAfter
    omega

theorem fetches_double (text : List Char) :
    Fetches column outer tokens (.scalar .doubleQuoted (String.ofList text)) '"'
      (text.flatMap Printer.escape ++ '"' :: '\n' :: tail) tail := by
  intro start hrest hcolumn
  have hmarker : ∀ mark, start.atMarker mark = false :=
    fun mark => Cursor.not_atMarker mark (by omega)
  have hopened : (start.skip 1).rest = text.flatMap Printer.escape ++ '"' :: '\n' :: tail := by
    simp [hrest]
  obtain ⟨after, hread, hafter⟩ := readQuoted_double text [] (start.skip 1)
    (2 * (start.skip 1).left + 2) hopened (by simp only [Cursor.skip_column]; omega) (by omega)
  have hstyle : (Style.doubleQuoted == Style.singleQuoted) = false := rfl
  refine ⟨after, false, ?_, Or.inr ⟨hafter, rfl⟩, ?_⟩
  · rw [fetchToken_double (hmarker _) (hmarker _), fetchQuoted, saveCandidate_block]
    simp only [Option.bind_eq_bind, Option.bind_some, block_cursor, hstyle, hread]
    rfl
  · have hleft := Cursor.left_of_rest hrest
    have hleftAfter := Cursor.left_of_rest hafter
    simp only [List.length_cons, List.length_append] at hleft hleftAfter
    omega

theorem fetches_literal {text rest : List Char} (hne : text ≠ [])
    (hprintable : ∀ c ∈ text, isPrintable c) (hlimit : limit ≤ column)
    (hcontinues : Continues limit tail)
    (hwritten : '|' :: rest = Printer.literal (column + 2) text ++ tail) :
    Fetches column outer tokens (.scalar .literal (String.ofList text)) '|' rest tail := by
  intro start hrest hcolumn
  have hmarker : ∀ mark, start.atMarker mark = false :=
    fun mark => Cursor.not_atMarker mark (by omega)
  have hopened : (start.skip 1).rest = rest := by simp [hrest]
  obtain ⟨after, hread, hlanded⟩ := @readBlock_literal column limit text tail (start.skip 1) hne
    hprintable hlimit hcontinues (by rw [hopened, hwritten])
  have hstyle : (Style.literal == Style.folded) = false := rfl
  refine ⟨after, true, ?_, Or.inl ⟨hlanded, rfl⟩, ?_⟩
  · rw [fetchToken_literal rfl (hmarker _) (hmarker _), fetchBlockScalar]
    simp only [dropCandidate_block, Option.bind_eq_bind, Option.bind_some, block_cursor,
      block_indent, hstyle, hread]
    rfl
  · have hleft := Cursor.left_of_rest hrest
    have hlength := congrArg List.length hwritten
    have hafter := hlanded.left_le
    simp only [List.length_cons, List.length_append] at hleft hlength
    omega

end Values

end Scanner

/-! ### Texts in their forms -/

def Printer.Form.style : Printer.Form → Style
  | .plain => .plain
  | .single => .singleQuoted
  | .double => .doubleQuoted
  | .literal => .literal

namespace Scanner

theorem fitsPlain_of_form {text : String} (hform : Printer.form text = .plain) :
    Printer.fitsPlain text.toList := by
  unfold Printer.form at hform
  simp only at hform
  split at hform
  · split at hform <;> cases hform
  · split at hform
    · next hfits =>
        rw [Bool.and_eq_true] at hfits
        exact hfits.2
    · split at hform <;> cases hform

theorem fitsSingle_of_form {text : String} (hform : Printer.form text = .single) :
    Printer.fitsSingle text.toList ∧ text.toList.contains '\n' = false := by
  unfold Printer.form at hform
  simp only at hform
  split at hform
  · split at hform <;> cases hform
  · next hfeed =>
      split at hform
      · cases hform
      · split at hform
        · next hfits => exact ⟨hfits, by simpa using hfeed⟩
        · cases hform

theorem fitsLiteral_of_form {text : String} (hform : Printer.form text = .literal) :
    Printer.fitsLiteral text.toList ∧ text.toList.contains '\n' := by
  unfold Printer.form at hform
  simp only at hform
  split at hform
  · next hfeed =>
      split at hform
      · next hfits => exact ⟨hfits, hfeed⟩
      · cases hform
  · split at hform
    · cases hform
    · split at hform <;> cases hform

theorem plainScalar_of_fitsPlain {text : List Char} (hfits : Printer.fitsPlain text) :
    ∃ c rest, text = c :: rest ∧ PlainScalar c rest := by
  obtain ⟨hne, hplain⟩ := plainRest_of_fitsPlain hfits
  obtain ⟨c, rest, rfl⟩ := List.exists_cons_of_ne_nil hne
  simp only [Printer.fitsPlain, Bool.and_eq_true, Bool.not_eq_true'] at hfits
  obtain ⟨hindicator, hword⟩ := startsIndicator_cons hfits.1.2
  refine ⟨c, rest, rfl, ⟨hindicator, hword, ?_, hplain.unbroken c List.mem_cons_self⟩, hplain⟩
  rw [isBlank_eq_isSpace (hplain.printable c List.mem_cons_self)]
  simpa [isSpace] using (hplain.head c rfl).2

section Texts

variable {column limit : Nat} {outer : List (Option Nat)} {tokens : List Token} {tail : List Char}

/-- Every text is fetched as it was printed. -/
theorem fetches_text (text : String) (hlimit : limit ≤ column) (hcontinues : Continues limit tail) :
    ∃ c rest, Printer.scalar (column + 2) text ++ tail = c :: rest ∧ StartsToken (c :: rest) ∧
      Fetches column outer tokens (.scalar (Printer.form text).style text) c rest tail := by
  have htext : String.ofList text.toList = text := String.ofList_toList
  unfold Printer.scalar
  cases hform : Printer.form text with
  | plain =>
      obtain ⟨c, rest, heq, hplain⟩ := plainScalar_of_fitsPlain (fitsPlain_of_form hform)
      refine ⟨c, rest ++ '\n' :: tail, by simp [heq], hplain.startsToken _, ?_⟩
      rw [heq] at htext
      rw [← htext]
      exact fetches_plain hplain hlimit hcontinues
  | single =>
      obtain ⟨hfits, hfeed⟩ := fitsSingle_of_form hform
      refine ⟨'\x27', Printer.singleBody (column + 2) false text.toList ++ '\x27' :: '\n' :: tail,
        by simp [Printer.singleQuoted], by simp [StartsToken, isBlank, isBreak], ?_⟩
      have hfetch :=
        @fetches_single column outer tokens tail _ (singleRest_of_fitsSingle hfits hfeed)
      rwa [htext] at hfetch
  | double =>
      refine ⟨'"', text.toList.flatMap Printer.escape ++ '"' :: '\n' :: tail,
        by simp [Printer.doubleQuoted], by simp [StartsToken, isBlank, isBreak], ?_⟩
      have hfetch := @fetches_double column outer tokens tail text.toList
      rwa [htext] at hfetch
  | literal =>
      obtain ⟨hfits, hfeed⟩ := fitsLiteral_of_form hform
      simp only [Printer.fitsLiteral, Bool.and_eq_true, Bool.not_eq_true'] at hfits
      have hne : text.toList ≠ [] := by
        intro hnil
        simp [hnil] at hfeed
      obtain ⟨rest, hrest⟩ :
          ∃ rest, '|' :: rest = Printer.literal (column + 2) text.toList ++ tail :=
        ⟨_, by rw [Printer.literal]; rfl⟩
      refine ⟨'|', rest, hrest.symm, by simp [StartsToken, isBlank, isBreak], ?_⟩
      have hfetch := @fetches_literal column limit outer tokens tail _ rest hne
        (isPrintable_of_hasSpecial hfits.1.1) hlimit hcontinues hrest
      rwa [htext] at hfetch

end Texts

end Scanner

end Rollout.Yaml
