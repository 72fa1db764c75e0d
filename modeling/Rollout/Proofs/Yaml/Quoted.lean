import Mathlib.Algebra.Group.Nat.Defs
import Rollout.Proofs.Yaml.Cursor

/-!
Quoted scalars. Between double quotes every character is written by `escape`, which leaves no line
break; between single quotes a line break is followed by the indentation of the next line. In both
styles the reader takes words and the gaps between them, so both proofs go from gap to gap.
-/

namespace Rollout.Yaml

open Printer (indentation isPrintable isSpace escape escapeLetter? hexDigits hexUpper singleBody)

/-! ### One piece and what stops it -/

section Steps

variable {single : Bool} {fuel count : Nat} {acc word : List Char} {cursor : Cursor}

theorem readQuoted_quote (hcolumn : 0 < cursor.column) (hne : cursor.rest ≠ [])
    (hpiece : readQuotedPiece single (cursor.left + 1) [] 0 cursor.rest =
      some (word, .quote, count)) (hfuel : 0 < fuel) :
    readQuoted single fuel acc cursor =
      some (acc.reverse ++ word, (cursor.skip count).skip 1) := by
  obtain ⟨fuel, rfl⟩ := Nat.exists_eq_add_of_lt hfuel
  have hgoes : (cursor.atDocumentMarker || cursor.rest.isEmpty) = false := by
    simp [Cursor.not_atDocumentMarker hcolumn, hne]
  rw [Nat.zero_add, readQuoted, hgoes]
  simp only [Bool.false_eq_true, if_false, hpiece, Option.bind_eq_bind, Option.bind_some]
  simp [push]

theorem readQuoted_gap {gap : Gap} {after : Cursor} (hcolumn : 0 < cursor.column)
    (hne : cursor.rest ≠ [])
    (hpiece : readQuotedPiece single (cursor.left + 1) [] 0 cursor.rest = some (word, .gap, count))
    (hgap : readGap 0 ((cursor.skip count).left + 1) .none (cursor.skip count) =
      some (gap, after)) :
    readQuoted single (fuel + 1) acc cursor =
      readQuoted single fuel (push (push acc word) gap.fold) after := by
  have hgoes : (cursor.atDocumentMarker || cursor.rest.isEmpty) = false := by
    simp [Cursor.not_atDocumentMarker hcolumn, hne]
  rw [readQuoted, hgoes]
  simp only [Bool.false_eq_true, if_false, hpiece, hgap, Option.bind_eq_bind, Option.bind_some]

theorem length_le_flatMap {write : Char → List Char} (text : List Char)
    (hwrite : ∀ c ∈ text, write c ≠ []) : text.length ≤ (text.flatMap write).length := by
  induction text with
  | nil => simp
  | cons c text ih =>
      have hc := List.length_pos_iff.mpr (hwrite c List.mem_cons_self)
      have hrest := ih fun d hd => hwrite d (List.mem_cons_of_mem c hd)
      simp only [List.flatMap_cons, List.length_append, List.length_cons]
      omega

/-- A piece is a word whose characters the reader takes one after the other, each as it is written,
up to something that stops it. -/
theorem readQuotedPiece_word {write : Char → List Char} {rest : List Char} {stop : PieceEnd}
    (hstep : ∀ c ∈ word, ∀ fuel taken piece more,
      readQuotedPiece single (fuel + 1) piece taken (write c ++ more) =
        readQuotedPiece single fuel (c :: piece) (taken + (write c).length) more)
    (hstop : ∀ fuel piece taken,
      readQuotedPiece single (fuel + 1) piece taken rest = some (piece.reverse, stop, taken))
    (taken : Nat) (piece : List Char) (hfuel : word.length < fuel) :
    readQuotedPiece single fuel piece taken (word.flatMap write ++ rest) =
      some (piece.reverse ++ word, stop, taken + (word.flatMap write).length) := by
  induction word generalizing fuel taken piece with
  | nil =>
      obtain ⟨fuel, rfl⟩ := Nat.exists_eq_add_of_lt hfuel
      simpa using hstop fuel piece taken
  | cons c word ih =>
      obtain ⟨fuel, rfl⟩ := Nat.exists_eq_add_of_lt (Nat.zero_lt_of_lt hfuel)
      simp only [List.length_cons] at hfuel
      have hword := ih (fun d hd => hstep d (List.mem_cons_of_mem c hd))
        (taken + (write c).length) (c :: piece) (show word.length < fuel by omega)
      rw [Nat.zero_add, List.flatMap_cons, List.append_assoc, hstep c List.mem_cons_self, hword]
      simp [Nat.add_assoc]

/-- A whole piece, read where a quoted scalar goes on. -/
theorem readQuotedPiece_rest {write : Char → List Char} {rest : List Char} {stop : PieceEnd}
    (hstep : ∀ c ∈ word, write c ≠ [] ∧ ∀ fuel taken piece more,
      readQuotedPiece single (fuel + 1) piece taken (write c ++ more) =
        readQuotedPiece single fuel (c :: piece) (taken + (write c).length) more)
    (hstop : ∀ fuel piece taken,
      readQuotedPiece single (fuel + 1) piece taken rest = some (piece.reverse, stop, taken))
    (hrest : cursor.rest = word.flatMap write ++ rest) :
    readQuotedPiece single (cursor.left + 1) [] 0 cursor.rest =
      some (word, stop, (word.flatMap write).length) := by
  have hwritten := @length_le_flatMap write word fun c hc => (hstep c hc).1
  have hleft := Cursor.left_of_rest hrest
  rw [List.length_append] at hleft
  rw [hrest, readQuotedPiece_word (fun c hc => (hstep c hc).2) hstop 0 [] (by omega), Nat.zero_add]
  rfl

end Steps

/-! ### Escapes -/

theorem readHex_append (first second value : Nat) (digits rest : List Char)
    (hlength : digits.length = first) :
    readHex (first + second) value (digits ++ rest) =
      (readHex first value digits).bind fun read => readHex second read rest := by
  induction digits generalizing first value with
  | nil =>
      subst hlength
      simp [readHex]
  | cons c digits ih =>
      subst hlength
      rw [List.length_cons, Nat.add_right_comm, List.cons_append, readHex, readHex]
      cases Text.Hex.value? c with
      | none => rfl
      | some digit => simpa using ih digits.length (value * 16 + digit) rfl

theorem length_hexDigits (count n : Nat) : (hexDigits count n).length = count := by
  induction count generalizing n with
  | zero => rfl
  | succ count ih => simp [hexDigits, ih]

theorem value?_hexUpper : ∀ digit, digit < 16 → Text.Hex.value? (hexUpper digit) = some digit := by
  decide

/-- The reader of hexadecimal digits undoes the printer. -/
theorem readHex_hexDigits (count n value : Nat) (hbound : n < 16 ^ count) (rest : List Char) :
    readHex count value (hexDigits count n ++ rest) = some (value * 16 ^ count + n) := by
  induction count generalizing n rest with
  | zero =>
      have hzero : n = 0 := by simpa using hbound
      simp [readHex, hzero]
  | succ count ih =>
      have hquotient : n / 16 < 16 ^ count := by
        rw [Nat.pow_succ] at hbound
        omega
      have hdigits := ih (n / 16) hquotient []
      rw [List.append_nil] at hdigits
      rw [hexDigits, List.append_assoc, readHex_append count 1 value _ _ (length_hexDigits _ _),
        hdigits, Option.bind_some, List.singleton_append, readHex,
        value?_hexUpper _ (Nat.mod_lt _ (by decide))]
      simp only [Option.bind_eq_bind, Option.bind_some, readHex, Option.some.injEq, Nat.pow_succ]
      have hdivision := Nat.div_add_mod n 16
      calc (value * 16 ^ count + n / 16) * 16 + n % 16
          = value * (16 ^ count * 16) + (16 * (n / 16) + n % 16) := by
            rw [Nat.add_mul, Nat.mul_assoc, Nat.mul_comm (n / 16) 16, Nat.add_assoc]
        _ = value * (16 ^ count * 16) + n := by rw [hdivision]

theorem letterEscape?_escapeLetter? {c letter : Char} (hletter : escapeLetter? c = some letter) :
    letterEscape? letter = some c ∧ isBreak letter = false := by
  unfold escapeLetter? at hletter
  split at hletter <;> first | cases hletter; decide | cases hletter

/-- Characters with neither a letter nor a place among the printable ones are written by their
number. -/
theorem readEscape_hex {c kind : Char} {digits : Nat} (hkind : escapeDigits? kind = some digits)
    (hletter : letterEscape? kind = none) (hbound : c.toNat < 16 ^ digits) (rest : List Char) :
    readEscape (kind :: (hexDigits digits c.toNat ++ rest)) = some (c, digits + 1) := by
  have hvalid : c.toNat < 0xD800 ∨ (0xDFFF < c.toNat ∧ c.toNat < 0x110000) := c.valid
  have hcode := readHex_hexDigits digits c.toNat 0 hbound rest
  rw [Nat.zero_mul, Nat.zero_add] at hcode
  simp only [readEscape, hletter, hkind, hcode, Option.bind_eq_bind, Option.bind_some,
    if_pos hvalid, Char.ofNat_toNat]

/-- The three ways in which a character other than a space is written between double quotes. -/
theorem escape_cases {c : Char} (hspace : c ≠ ' ') :
    (escape c = [c] ∧ isBlank c = false ∧ isBreak c = false ∧ c ≠ '"' ∧ c ≠ '\\') ∨
      ∃ kind text, escape c = '\\' :: kind :: text ∧ isBreak kind = false ∧
        ∀ rest, readEscape (kind :: (text ++ rest)) = some (c, text.length + 1) := by
  have hhex : ∀ kind digits, escapeDigits? kind = some digits → letterEscape? kind = none →
      isBreak kind = false → c.toNat < 16 ^ digits →
      ∃ kind' text, '\\' :: kind :: hexDigits digits c.toNat = '\\' :: kind' :: text ∧
        isBreak kind' = false ∧
        ∀ rest, readEscape (kind' :: (text ++ rest)) = some (c, text.length + 1) := by
    intro kind digits hkind hletter hbreak hbound
    refine ⟨kind, hexDigits digits c.toNat, rfl, hbreak, fun rest => ?_⟩
    rw [length_hexDigits, readEscape_hex hkind hletter hbound]
  unfold escape
  cases hletter : escapeLetter? c with
  | some letter =>
      obtain ⟨hread, hbreak⟩ := letterEscape?_escapeLetter? hletter
      exact Or.inr ⟨letter, [], rfl, hbreak, fun rest => by simp [readEscape, hread]⟩
  | none =>
      cases hprintable : isPrintable c with
      | true =>
          have hne : ∀ other, escapeLetter? other ≠ none → c ≠ other := by
            rintro other hother rfl
            exact hother hletter
          refine Or.inl ⟨rfl, ?_, ?_, hne '"' (by decide), hne '\\' (by decide)⟩
          · cases hblank : isBlank c with
            | false => rfl
            | true => exact absurd (isBlank_printable hblank hprintable) hspace
          · cases hbreak : isBreak c with
            | false => rfl
            | true =>
                rcases isBreak_printable hbreak hprintable with rfl | rfl | rfl <;> cases hletter
      | false =>
          right
          have hvalid : c.toNat < 0xD800 ∨ (0xDFFF < c.toNat ∧ c.toNat < 0x110000) := c.valid
          simp only [Bool.false_eq_true, if_false]
          by_cases hsmall : c.toNat < 0x100
          · rw [if_pos hsmall]
            exact hhex 'x' 2 rfl rfl rfl hsmall
          · rw [if_neg hsmall]
            by_cases hmiddle : c.toNat < 0x10000
            · rw [if_pos hmiddle]
              exact hhex 'u' 4 rfl rfl rfl hmiddle
            · rw [if_neg hmiddle]
              exact hhex 'U' 8 rfl rfl rfl (by omega)

theorem escape_space : escape ' ' = [' '] := by decide

/-- A written character is not taken for a gap. -/
theorem escape_head {c : Char} (hspace : c ≠ ' ') (rest : List Char) :
    ∃ d text, escape c ++ rest = d :: text ∧ isBlank d = false ∧ isBreak d = false := by
  rcases escape_cases hspace with ⟨heq, hblank, hbreak, -⟩ | ⟨kind, text, heq, -⟩
  · exact ⟨c, rest, by rw [heq]; rfl, hblank, hbreak⟩
  · exact ⟨'\\', kind :: (text ++ rest), by rw [heq]; rfl, rfl, rfl⟩

/-! ### Double quotes -/

/-- The reader takes a written character as a whole. -/
theorem readQuotedPiece_escape {c : Char} (hspace : c ≠ ' ') (fuel taken : Nat)
    (piece rest : List Char) :
    readQuotedPiece false (fuel + 1) piece taken (escape c ++ rest) =
      readQuotedPiece false fuel (c :: piece) (taken + (escape c).length) rest := by
  rcases escape_cases hspace with ⟨heq, hblank, hbreak, hquote, hslash⟩ |
    ⟨kind, text, heq, hbreak, hread⟩
  · rw [heq, List.singleton_append, readQuotedPiece]
    simp [hblank, hbreak, hquote, hslash]
  · rw [heq, List.cons_append, List.cons_append, readQuotedPiece]
    have hgoes : (isBlank '\\' || isBreak '\\') = false := by decide
    have hends : (!(kind :: (text ++ rest)).isEmpty && endsLine (kind :: (text ++ rest))) =
        false := by simp [endsLine, hbreak]
    simp only [hgoes, Bool.false_eq_true, if_false, hends, hread, if_true]
    rw [if_neg (by decide)]
    simp [Nat.add_assoc, Nat.add_comm]

theorem flatMap_indentation {write : Char → List Char} (hspace : write ' ' = [' '])
    (count : Nat) : (indentation count).flatMap write = indentation count := by
  induction count with
  | zero => rfl
  | succ count ih =>
      rw [indentation, List.replicate_succ, List.flatMap_cons, hspace]
      exact congrArg (' ' :: ·) ih

theorem escape_ne_nil {c : Char} (hspace : c ≠ ' ') : escape c ≠ [] := by
  rcases escape_cases hspace with ⟨heq, -⟩ | ⟨kind, text, heq, -⟩ <;> simp [heq]

/-- Every text between double quotes is read back. -/
theorem readQuoted_double {tail : List Char} (text acc : List Char) (cursor : Cursor) (fuel : Nat)
    (hrest : cursor.rest = text.flatMap escape ++ '"' :: tail) (hcolumn : 0 < cursor.column)
    (hfuel : cursor.left < fuel) :
    ∃ after, readQuoted false fuel acc cursor = some (acc.reverse ++ text, after) ∧
      after.rest = tail := by
  induction hlength : text.length using Nat.strongRecOn generalizing text acc cursor fuel with
  | ind length ih =>
      obtain ⟨word, hword, hsplit⟩ := exists_word text
      have hne : cursor.rest ≠ [] := by simp [hrest]
      have hstep := fun c hc => And.intro (escape_ne_nil (hword c hc))
        (readQuotedPiece_escape (hword c hc))
      obtain ⟨fuel, rfl⟩ := Nat.exists_eq_add_of_lt (Nat.zero_lt_of_lt hfuel)
      rcases hsplit with rfl | ⟨count, next, hnext, rfl⟩
      · have hpiece := readQuotedPiece_rest hstep (fun _ _ _ => rfl) hrest
        refine ⟨_, readQuoted_quote hcolumn hne hpiece (by omega), ?_⟩
        simp [hrest]
      · rw [List.flatMap_append, List.flatMap_append, flatMap_indentation escape_space,
          List.append_assoc, List.append_assoc] at hrest
        have hpiece := readQuotedPiece_rest hstep (fun _ _ _ => rfl) hrest
        let stop := cursor.skip (word.flatMap escape).length
        have hstop : stop.rest = indentation (count + 1) ++ (next.flatMap escape ++ '"' :: tail) :=
          Cursor.rest_skip hrest
        have hhead : ∀ c, (next.flatMap escape ++ '"' :: tail).head? = some c →
            isBlank c = false ∧ isBreak c = false := by
          cases next with
          | nil => simp [isBlank, isBreak]
          | cons c next =>
              obtain ⟨d, text, heq, hkept⟩ := escape_head (hnext c rfl)
                (next.flatMap escape ++ '"' :: tail)
              rw [List.flatMap_cons, List.append_assoc, heq]
              simpa using hkept
        have hgap := @readGap_ofSpaces 0 (stop.left + 1) stop (count + 1) _ hstop
          (Nat.lt_succ_self _) hhead
        have hleft := Cursor.left_of_rest hrest
        simp only [List.length_append, List.length_cons, indentation, List.length_replicate]
          at hlength hleft
        rw [Nat.zero_add, readQuoted_gap hcolumn hne hpiece hgap]
        obtain ⟨after, hread, hafter⟩ := ih next.length (by omega) next
          (push (push acc word) (Gap.ofSpaces (count + 1)).fold)
          (stop.skip (count + 1)) fuel (Cursor.rest_skip_indentation hstop)
          (by simp only [Cursor.skip_column]; omega)
          (by simp only [stop, Cursor.skip_left]; omega) rfl
        refine ⟨after, ?_, hafter⟩
        rw [hread]
        simp [push, List.append_assoc]

/-! ### Single quotes -/

/-- A character other than a break between single quotes. -/
def doubled (c : Char) : List Char := if c = '\x27' then ['\x27', '\x27'] else [c]

/-- A text that single quotes keep from here on. -/
structure SingleRest (text : List Char) : Prop where
  printable : ∀ c ∈ text, isPrintable c
  unfed : ∀ c ∈ text, c ≠ '\n'
  apart : ∀ before after c d, text = before ++ c :: d :: after →
    ¬ (isSpace c ∧ isBreak d) ∧ ¬ (isBreak c ∧ isSpace d)

theorem SingleRest.of_append {before after : List Char} (hrest : SingleRest (before ++ after)) :
    SingleRest after where
  printable c hc := hrest.printable c (by simp [hc])
  unfed c hc := hrest.unfed c (by simp [hc])
  apart first second c d heq := hrest.apart (before ++ first) second c d (by simp [heq])

theorem singleRest_of_fitsSingle {text : List Char} (hfits : Printer.fitsSingle text)
    (hfeed : text.contains '\n' = false) : SingleRest text := by
  simp only [Printer.fitsSingle, Bool.and_eq_true, Bool.not_eq_true'] at hfits
  obtain ⟨⟨hspecial, hspace⟩, hbreak⟩ := hfits
  refine ⟨isPrintable_of_hasSpecial hspecial, ?_, ?_⟩
  · rintro c hc rfl
    simp [hc] at hfeed
  · rintro before after c d rfl
    exact ⟨hasPair_append hspace, hasPair_append hbreak⟩

/-- After a run of spaces or of breaks, the text goes on with a character of a word. -/
theorem SingleRest.head_next {run next : List Char} (hrest : SingleRest (run ++ next))
    (hne : run ≠ [])
    (hkind : (∀ c ∈ run, isSpace c) ∧ (∀ c, next.head? = some c → isSpace c = false) ∨
      (∀ c ∈ run, isBreak c) ∧ (∀ c, next.head? = some c → isBreak c = false)) :
    ∀ c, next.head? = some c → isBlank c = false ∧ isBreak c = false := by
  intro d hd
  obtain ⟨later, rfl⟩ := List.head?_eq_some_iff.mp hd
  obtain ⟨first, last, rfl⟩ : ∃ first last, run = first ++ [last] :=
    ⟨_, _, (List.dropLast_concat_getLast hne).symm⟩
  have hapart := hrest.apart first later last d (by simp)
  have hlast : last ∈ first ++ [last] := by simp
  rw [isBlank_eq_isSpace (hrest.printable d (by simp))]
  rcases hkind with ⟨hrun, hnext⟩ | ⟨hrun, hnext⟩
  · exact ⟨hnext d rfl, by simpa [hrun last hlast] using hapart.1⟩
  · exact ⟨by simpa [hrun last hlast] using hapart.2, hnext d rfl⟩

theorem singleBody_word {indent : Nat} {word : List Char} (more : List Char)
    (hword : ∀ c ∈ word, isBreak c = false) :
    singleBody indent false (word ++ more) =
      word.flatMap doubled ++ singleBody indent false more := by
  induction word with
  | nil => rfl
  | cons c word ih =>
      have hrest := ih fun d hd => hword d (List.mem_cons_of_mem c hd)
      simp only [List.cons_append, singleBody, hword c List.mem_cons_self, Bool.false_eq_true,
        if_false, List.nil_append, hrest, List.flatMap_cons, doubled, List.append_assoc]

theorem singleBody_breaks {indent : Nat} {breaks : List Char} (text : List Char)
    (hbreaks : ∀ c ∈ breaks, isBreak c)
    (hhead : ∀ c, text.head? = some c → isBreak c = false) :
    singleBody indent true (breaks ++ text) =
      breaks ++ (indentation indent ++ singleBody indent false text) := by
  induction breaks with
  | nil =>
      cases text with
      | nil => simp [singleBody]
      | cons c text => simp [singleBody, hhead c rfl]
  | cons c breaks ih =>
      have hrest := ih fun d hd => hbreaks d (List.mem_cons_of_mem c hd)
      simp only [List.cons_append, singleBody, hbreaks c List.mem_cons_self, if_true, hrest]

theorem readQuotedPiece_doubled {c : Char} (hblank : isBlank c = false)
    (hbreak : isBreak c = false) (fuel taken : Nat) (piece more : List Char) :
    readQuotedPiece true (fuel + 1) piece taken (doubled c ++ more) =
      readQuotedPiece true fuel (c :: piece) (taken + (doubled c).length) more := by
  by_cases hquote : c = '\x27'
  · subst hquote
    simp [doubled, readQuotedPiece, isBlank, isBreak]
  · simp [doubled, hquote, readQuotedPiece, hblank, hbreak]

/-- What is written of a text is not taken for a gap, if the text does not begin with one. -/
theorem singleBody_head {indent : Nat} {text : List Char} (tail : List Char)
    (hhead : ∀ c, text.head? = some c → isBlank c = false ∧ isBreak c = false) :
    ∀ c, (singleBody indent false text ++ '\x27' :: tail).head? = some c →
      isBlank c = false ∧ isBreak c = false := by
  cases text with
  | nil => simp [singleBody, isBlank, isBreak]
  | cons d text =>
      obtain ⟨hblank, hbreak⟩ := hhead d rfl
      by_cases hquote : d = '\x27'
      · simp [singleBody, hquote, isBlank, isBreak]
      · simp [singleBody, hquote, hblank, hbreak]

/-- What reading a gap between single quotes comes to: the gap that the printer wrote for `run`, and
a place from which the rest of the text is left. -/
def ReadsGap (indent : Nat) (run next tail : List Char) (cursor : Cursor) : Prop :=
  ∃ gap after, readGap 0 (cursor.left + 1) .none cursor = some (gap, after) ∧ gap.fold = run ∧
    after.rest = singleBody indent false next ++ '\x27' :: tail ∧ 0 < after.column ∧
    after.left < cursor.left

section Gaps

variable {indent : Nat} {c : Char} {run next tail : List Char} {cursor : Cursor}

theorem readsGap_spaces (hrest : SingleRest (c :: run ++ next)) (hrun : ∀ d ∈ c :: run, isSpace d)
    (hnext : ∀ d, next.head? = some d → isSpace d = false)
    (hcursor : cursor.rest = singleBody indent false (c :: run ++ next) ++ '\x27' :: tail)
    (hcolumn : 0 < cursor.column) : ReadsGap indent (c :: run) next tail cursor := by
  have hkept : ∀ d ∈ c :: run, isBreak d = false := by
    intro d hd
    have hd := hrun d hd
    simp only [isSpace, decide_eq_true_eq] at hd
    rw [hd]
    rfl
  have hwritten : (c :: run).flatMap doubled = indentation (c :: run).length := by
    rw [eq_indentation hrun, flatMap_indentation (by decide)]
    simp [indentation]
  have hhead := hrest.head_next (List.cons_ne_nil c run) (Or.inl ⟨hrun, hnext⟩)
  rw [singleBody_word next hkept, hwritten, List.append_assoc] at hcursor
  refine ⟨.ofSpaces (c :: run).length, cursor.skip (c :: run).length,
    readGap_ofSpaces hcursor (Nat.lt_succ_self _) (singleBody_head tail hhead), ?_,
    Cursor.rest_skip_indentation hcursor, by simp only [Cursor.skip_column]; omega, ?_⟩
  · rw [Gap.fold_ofSpaces]
    exact (eq_indentation hrun).symm
  · have hleft := Cursor.left_of_rest hcursor
    simp only [indentation, List.length_append, List.length_replicate, List.length_cons] at hleft
    simp only [Cursor.skip_left, List.length_cons]
    omega

theorem readsGap_breaks (hindent : 0 < indent) (hrest : SingleRest (c :: run ++ next))
    (hrun : ∀ d ∈ c :: run, isBreak d) (hnext : ∀ d, next.head? = some d → isBreak d = false)
    (hcursor : cursor.rest = singleBody indent false (c :: run ++ next) ++ '\x27' :: tail) :
    ReadsGap indent (c :: run) next tail cursor := by
  have hlater : ∀ d ∈ run, isBreak d := fun d hd => hrun d (List.mem_cons_of_mem c hd)
  rw [List.cons_append, singleBody, if_pos (hrun c List.mem_cons_self),
    singleBody_breaks next hlater hnext] at hcursor
  have hhead := hrest.head_next (List.cons_ne_nil c run) (Or.inr ⟨hrun, hnext⟩)
  have hprintable : ∀ d ∈ c :: run, isBreak d ∧ isPrintable d :=
    fun d hd => ⟨hrun d hd, hrest.printable d (List.mem_append_left next hd)⟩
  obtain ⟨after, hread, hafter, hindented⟩ := @readGap_ofBreaks 0 (cursor.left + 1) cursor c
    run (singleBody indent false next ++ '\x27' :: tail) indent hprintable
    (by simpa [List.append_assoc] using hcursor) (Nat.lt_succ_self _) (singleBody_head tail hhead)
  refine ⟨.ofBreaks c run, after, hread, ?_, hafter, by omega, ?_⟩
  · exact Gap.fold_ofBreaks run (hrest.unfed c (by simp))
  · have hleft := Cursor.left_of_rest hcursor
    have hleftAfter := Cursor.left_of_rest hafter
    simp only [List.cons_append, List.length_cons, List.length_append] at hleft hleftAfter
    omega

end Gaps

/-- Between single quotes, a gap is a run of spaces or a run of breaks. In both cases the reader
finds the gap that the printer wrote. -/
theorem readsGap_single {indent : Nat} {more tail : List Char} (hindent : 0 < indent)
    (hrest : SingleRest more) (hne : more ≠ [])
    (hgap : ∀ c, more.head? = some c → isSpace c ∨ isBreak c) :
    ∃ run next, more = run ++ next ∧ run ≠ [] ∧ ∀ cursor : Cursor,
      cursor.rest = singleBody indent false more ++ '\x27' :: tail → 0 < cursor.column →
      ReadsGap indent run next tail cursor := by
  obtain ⟨c, rest, rfl⟩ := List.exists_cons_of_ne_nil hne
  cases hspace : isSpace c with
  | true =>
      obtain ⟨spaces, next, rfl, hspaces, hnext⟩ := exists_run isSpace rest
      have hrun : ∀ d ∈ c :: spaces, isSpace d := by simpa [hspace] using hspaces
      exact ⟨c :: spaces, next, rfl, List.cons_ne_nil c spaces, fun cursor hcursor hcolumn =>
        readsGap_spaces hrest hrun hnext hcursor hcolumn⟩
  | false =>
      have hbreak : isBreak c := by simpa [hspace] using hgap c rfl
      obtain ⟨breaks, next, rfl, hbreaks, hnext⟩ := exists_run isBreak rest
      have hrun : ∀ d ∈ c :: breaks, isBreak d := by simpa [hbreak] using hbreaks
      exact ⟨c :: breaks, next, rfl, List.cons_ne_nil c breaks, fun cursor hcursor _ =>
        readsGap_breaks hindent hrest hrun hnext hcursor⟩

/-- A piece ends at a gap. -/
theorem readQuotedPiece_gap {indent : Nat} {c : Char} (more tail : List Char)
    (hc : isSpace c ∨ isBreak c) (fuel taken : Nat) (piece : List Char) :
    readQuotedPiece true (fuel + 1) piece taken
      (singleBody indent false (c :: more) ++ '\x27' :: tail) =
        some (piece.reverse, .gap, taken) := by
  rcases hc with hspace | hbreak
  · simp only [isSpace, decide_eq_true_eq] at hspace
    subst hspace
    simp [singleBody, readQuotedPiece, isBlank, isBreak]
  · simp [singleBody, readQuotedPiece, hbreak]

theorem doubled_ne_nil (c : Char) : doubled c ≠ [] := by
  unfold doubled
  split <;> simp

/-- A text between single quotes is read back. What follows may not begin with a quote, which would
be taken for the second one of a pair. -/
theorem readQuoted_single {indent : Nat} {tail : List Char} (hindent : 0 < indent)
    (htail : tail.head? ≠ some '\x27') (text acc : List Char) (cursor : Cursor) (fuel : Nat)
    (hsingle : SingleRest text)
    (hrest : cursor.rest = singleBody indent false text ++ '\x27' :: tail)
    (hcolumn : 0 < cursor.column) (hfuel : cursor.left < fuel) :
    ∃ after, readQuoted true fuel acc cursor = some (acc.reverse ++ text, after) ∧
      after.rest = tail := by
  induction hlength : text.length using Nat.strongRecOn generalizing text acc cursor fuel with
  | ind length ih =>
      obtain ⟨word, more, rfl, hword, hmore⟩ :=
        exists_run (fun c => !isSpace c && !isBreak c) text
      have hkept : ∀ c ∈ word, isBlank c = false ∧ isBreak c = false := by
        intro c hc
        have hc' := hword c hc
        simp only [Bool.and_eq_true, Bool.not_eq_true'] at hc'
        refine ⟨?_, hc'.2⟩
        rw [isBlank_eq_isSpace (hsingle.printable c (List.mem_append_left more hc)), hc'.1]
      have hstep : ∀ c ∈ word, doubled c ≠ [] ∧ ∀ fuel taken piece more,
          readQuotedPiece true (fuel + 1) piece taken (doubled c ++ more) =
            readQuotedPiece true fuel (c :: piece) (taken + (doubled c).length) more :=
        fun c hc => ⟨doubled_ne_nil c, readQuotedPiece_doubled (hkept c hc).1 (hkept c hc).2⟩
      have hne : cursor.rest ≠ [] := by simp [hrest]
      rw [singleBody_word more fun c hc => (hkept c hc).2, List.append_assoc] at hrest
      obtain ⟨fuel, rfl⟩ := Nat.exists_eq_add_of_lt (Nat.zero_lt_of_lt hfuel)
      cases more with
      | nil =>
          have hstop : ∀ fuel piece taken,
              readQuotedPiece true (fuel + 1) piece taken ('\x27' :: tail) =
                some (piece.reverse, .quote, taken) := by
            intro fuel piece taken
            simp [readQuotedPiece, isBlank, isBreak, htail]
          have hpiece := readQuotedPiece_rest hstep hstop hrest
          rw [List.append_nil]
          refine ⟨_, readQuoted_quote hcolumn hne hpiece (by omega), ?_⟩
          simp [hrest, singleBody]
      | cons c more =>
          have hc : isSpace c ∨ isBreak c := by
            have hc := hmore c rfl
            simp only [Bool.and_eq_false_iff, Bool.not_eq_false'] at hc
            exact hc
          have hpiece := readQuotedPiece_rest hstep
            (fun fuel piece taken => readQuotedPiece_gap more tail hc fuel taken piece) hrest
          obtain ⟨run, next, heq, hrun, hread⟩ := @readsGap_single indent (c :: more) tail hindent
            hsingle.of_append (List.cons_ne_nil c more) (by simpa using hc)
          obtain ⟨gap, next', hgap, hfold, hnext, hcolumnNext, hleftNext⟩ :=
            hread (cursor.skip (word.flatMap doubled).length) (Cursor.rest_skip hrest)
              (by simp only [Cursor.skip_column]; omega)
          rw [heq] at hsingle hlength ⊢
          have hrunLength := List.length_pos_iff.mpr hrun
          simp only [List.length_append] at hlength
          rw [Cursor.skip_left] at hleftNext
          obtain ⟨after, hread, hafter⟩ := ih next.length (by omega) next
            (push (push acc word) gap.fold) next' fuel hsingle.of_append.of_append hnext
            hcolumnNext (by omega) rfl
          refine ⟨after, ?_, hafter⟩
          rw [Nat.zero_add, readQuoted_gap hcolumn hne hpiece hgap, hread, hfold]
          simp [push, List.append_assoc]

end Rollout.Yaml
