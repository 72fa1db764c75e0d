import Rollout.Yaml.Printer
import Rollout.Yaml.Token.Scalar

/-!
Places in a printed document. Every value ends where a line ends, and what follows is either the end
of the text or the line of a further key, which is not indented more than the key of the value. So
all readers of values are described by what they leave unread and by the column they stop at.
-/

namespace Rollout.Yaml

open Printer (indentation isPrintable isSpace)

/-! ### Bytes and cursors -/

theorem byteLength_succ_cons (c : Char) (text : List Char) (count : Nat) :
    byteLength (c :: text) (count + 1) = c.utf8Size + byteLength text count := by
  have hadd : ∀ (text : List Char) (size : Nat),
      text.foldl (fun size c => size + c.utf8Size) size =
        size + text.foldl (fun size c => size + c.utf8Size) 0 := by
    intro text
    induction text with
    | nil => simp
    | cons c rest ih =>
        intro size
        simp only [List.foldl_cons]
        rw [ih, ih (0 + c.utf8Size)]
        omega
  simp only [byteLength, List.take_succ_cons, List.foldl_cons]
  rw [hadd]
  omega

@[simp] theorem byteLength_zero (text : List Char) : byteLength text 0 = 0 := by
  simp [byteLength]

@[simp] theorem byteLength_nil (count : Nat) : byteLength [] count = 0 := by
  simp [byteLength]

theorem byteLength_add (text : List Char) (first second : Nat) :
    byteLength text (first + second) =
      byteLength text first + byteLength (text.drop first) second := by
  induction first generalizing text with
  | zero => simp
  | succ first ih =>
      cases text with
      | nil => simp
      | cons c rest =>
          rw [Nat.add_right_comm, byteLength_succ_cons, byteLength_succ_cons, ih rest,
            List.drop_succ_cons]
          omega

theorem byteLength_le (text : List Char) (count : Nat) : byteLength text count ≤ 4 * count := by
  induction count generalizing text with
  | zero => simp
  | succ count ih =>
      cases text with
      | nil => simp
      | cons c rest =>
          rw [byteLength_succ_cons]
          have hsize := Char.utf8Size_le_four c
          have hrest := ih rest
          omega

namespace Cursor

@[simp] theorem skip_rest (cursor : Cursor) (count : Nat) :
    (cursor.skip count).rest = cursor.rest.drop count := rfl

@[simp] theorem skip_left (cursor : Cursor) (count : Nat) :
    (cursor.skip count).left = cursor.left - count := rfl

@[simp] theorem skip_line (cursor : Cursor) (count : Nat) :
    (cursor.skip count).line = cursor.line := rfl

@[simp] theorem skip_column (cursor : Cursor) (count : Nat) :
    (cursor.skip count).column = cursor.column + count := rfl

@[simp] theorem skip_offset (cursor : Cursor) (count : Nat) :
    (cursor.skip count).offset = cursor.offset + byteLength cursor.rest count := rfl

@[simp] theorem nextLine_rest (cursor : Cursor) (count : Nat) :
    (cursor.nextLine count).rest = cursor.rest.drop count := rfl

@[simp] theorem nextLine_left (cursor : Cursor) (count : Nat) :
    (cursor.nextLine count).left = cursor.left - count := rfl

@[simp] theorem nextLine_column (cursor : Cursor) (count : Nat) :
    (cursor.nextLine count).column = 0 := rfl

@[simp] theorem skip_zero (cursor : Cursor) : cursor.skip 0 = cursor := by
  simp [skip]

theorem skip_skip (cursor : Cursor) (first second : Nat) :
    (cursor.skip first).skip second = cursor.skip (first + second) := by
  simp only [skip, List.drop_drop, Nat.sub_sub, Nat.add_assoc, byteLength_add]

theorem left_of_rest {cursor : Cursor} {text : List Char} (hrest : cursor.rest = text) :
    cursor.left = text.length := by rw [cursor.left_eq, hrest]

theorem rest_skip {cursor : Cursor} {read rest : List Char}
    (hrest : cursor.rest = read ++ rest) : (cursor.skip read.length).rest = rest := by
  simp [hrest]

theorem rest_skip_indentation {cursor : Cursor} {count : Nat} {rest : List Char}
    (hrest : cursor.rest = indentation count ++ rest) : (cursor.skip count).rest = rest := by
  simp [hrest, indentation]

theorem upTo_eq_skip {cursor : Cursor} {read rest : List Char}
    (hrest : cursor.rest = read ++ rest) : cursor.upTo rest = cursor.skip read.length := by
  unfold upTo
  rw [left_of_rest hrest, List.length_append, Nat.add_sub_cancel]

/-- Nothing is skipped where the first character is not one of those to be skipped. -/
theorem skipWhile_eq_self {p : Char → Bool} {cursor : Cursor}
    (hhead : ∀ c, cursor.rest.head? = some c → p c = false) : cursor.skipWhile p = cursor := by
  unfold skipWhile
  cases hrest : cursor.rest with
  | nil => simp
  | cons c rest =>
      have hc := hhead c (by simp [hrest])
      simp [hc]

theorem skipWhile_spaces {p : Char → Bool} {cursor : Cursor} {count : Nat} {rest : List Char}
    (hspace : p ' ' = true) (hrest : cursor.rest = indentation count ++ rest)
    (hhead : ∀ c, rest.head? = some c → p c = false) : cursor.skipWhile p = cursor.skip count := by
  have htake : rest.takeWhile p = [] := by
    cases rest with
    | nil => rfl
    | cons c rest => simp [hhead c rfl]
  have hall : ∀ c ∈ indentation count, p c = true := by
    intro c hc
    rw [List.eq_of_mem_replicate hc]
    exact hspace
  unfold skipWhile
  rw [hrest, List.takeWhile_append_of_pos hall, htake, List.append_nil, indentation,
    List.length_replicate]

theorem skipMark_eq_self {cursor : Cursor}
    (hhead : ∀ c, cursor.rest.head? = some c → c ≠ '\ufeff') : cursor.skipMark = cursor := by
  unfold skipMark
  cases hrest : cursor.rest.head? with
  | none => simp
  | some c => simp [hhead c hrest]

theorem skipBreak_eq_nextLine {cursor : Cursor} {c : Char} {rest : List Char}
    (hrest : cursor.rest = c :: rest) (hbreak : isBreak c) (hreturn : c ≠ '\r') :
    cursor.skipBreak = cursor.nextLine 1 := by
  have hlength : breakLength (c :: rest) = 1 := by
    unfold breakLength
    split
    · next heq =>
        obtain ⟨rfl, -⟩ := List.cons.inj heq
        exact absurd rfl hreturn
    · next heq =>
        obtain ⟨rfl, -⟩ := List.cons.inj heq
        rw [if_pos hbreak]
    · next heq => cases heq
  unfold skipBreak
  rw [hrest, hlength]
  rfl

theorem not_atMarker {cursor : Cursor} (mark : Char) (hcolumn : 0 < cursor.column) :
    cursor.atMarker mark = false := by
  have hne : cursor.column ≠ 0 := by omega
  simp [atMarker, hne]

theorem not_atDocumentMarker {cursor : Cursor} (hcolumn : 0 < cursor.column) :
    cursor.atDocumentMarker = false := by
  simp [atDocumentMarker, not_atMarker _ hcolumn]

end Cursor

/-! ### Breaks that are written as they stand -/

/-- The printable breaks: the line feed, the line separator and the paragraph separator. -/
theorem isBreak_printable {c : Char} (hbreak : isBreak c) (hprintable : isPrintable c) :
    c = '\n' ∨ c = '\u2028' ∨ c = '\u2029' := by
  simp only [isBreak, Bool.or_eq_true, decide_eq_true_eq] at hbreak
  rcases hbreak with (((rfl | rfl) | rfl) | rfl) | rfl
  · exact Or.inl rfl
  · exact absurd hprintable (by decide)
  · exact absurd hprintable (by decide)
  · exact Or.inr (Or.inl rfl)
  · exact Or.inr (Or.inr rfl)

theorem ne_return_of_printable {c : Char} (hprintable : isPrintable c) : c ≠ '\r' := by
  rintro rfl
  exact absurd hprintable (by decide)

/-- A printable break stands for itself in a scalar. -/
theorem Cursor.breakText_of_printable {cursor : Cursor} {c : Char} {rest : List Char}
    (hrest : cursor.rest = c :: rest) (hbreak : isBreak c) (hprintable : isPrintable c) :
    cursor.breakText = [c] := by
  unfold Cursor.breakText
  rw [hrest]
  rcases isBreak_printable hbreak hprintable with rfl | rfl | rfl <;> rfl

theorem isBlank_printable {c : Char} (hblank : isBlank c) (hprintable : isPrintable c) :
    c = ' ' := by
  simp only [isBlank, Bool.or_eq_true, decide_eq_true_eq] at hblank
  rcases hblank with rfl | rfl
  · rfl
  · exact absurd hprintable (by decide)

theorem isBlank_eq_isSpace {c : Char} (hprintable : isPrintable c) : isBlank c = isSpace c := by
  cases hblank : isBlank c with
  | true => simp [isSpace, isBlank_printable hblank hprintable]
  | false =>
      simp only [isBlank, Bool.or_eq_false_iff, decide_eq_false_iff_not] at hblank
      simp [isSpace, hblank.1]

/-! ### Runs of characters -/

/-- A text begins with the longest run of characters of a kind. -/
theorem exists_run (p : Char → Bool) (text : List Char) :
    ∃ run rest, text = run ++ rest ∧ (∀ c ∈ run, p c) ∧
      ∀ c, rest.head? = some c → p c = false := by
  induction text with
  | nil => exact ⟨[], [], rfl, by simp, by simp⟩
  | cons c text ih =>
      cases hc : p c with
      | false => exact ⟨[], c :: text, rfl, by simp, by simp [hc]⟩
      | true =>
          obtain ⟨run, rest, rfl, hrun, hrest⟩ := ih
          exact ⟨c :: run, rest, rfl, by simpa [hc] using hrun, hrest⟩

theorem eq_indentation {run : List Char} (hrun : ∀ c ∈ run, isSpace c) :
    run = indentation run.length :=
  List.eq_replicate_iff.mpr ⟨rfl, fun c hc => by simpa [isSpace] using hrun c hc⟩

/-- A text is a word, or a word, some spaces and a text that begins with no space. -/
theorem exists_word (text : List Char) :
    ∃ word, (∀ c ∈ word, c ≠ ' ') ∧ (text = word ∨ ∃ count next,
      (∀ c, next.head? = some c → c ≠ ' ') ∧
        text = word ++ (indentation (count + 1) ++ next)) := by
  obtain ⟨word, more, rfl, hword, hmore⟩ := exists_run (fun c => !isSpace c) text
  obtain ⟨spaces, next, rfl, hspaces, hnext⟩ := exists_run isSpace more
  refine ⟨word, fun c hc => by simpa [isSpace] using hword c hc, ?_⟩
  have hindentation := eq_indentation hspaces
  cases hcount : spaces.length with
  | zero =>
      left
      obtain rfl := List.length_eq_zero_iff.mp hcount
      cases next with
      | nil => simp
      | cons c rest =>
          have hspace : isSpace c = true := by simpa using hmore c rfl
          rw [hnext c rfl] at hspace
          cases hspace
  | succ count =>
      right
      rw [hcount] at hindentation
      exact ⟨count, next, fun c hc => by simpa [isSpace] using hnext c hc, by rw [hindentation]⟩

theorem hasPair_append {first second : Char → Bool} {before after : List Char} {c d : Char}
    (hnone : Printer.hasPair first second (before ++ c :: d :: after) = false) :
    ¬ (first c ∧ second d) := by
  induction before with
  | nil =>
      simp only [List.nil_append, Printer.hasPair, Bool.or_eq_false_iff] at hnone
      rintro ⟨hc, hd⟩
      simp [hc, hd] at hnone
  | cons b before ih =>
      cases before with
      | nil =>
          simp only [List.cons_append, List.nil_append, Printer.hasPair, Bool.or_eq_false_iff]
            at hnone
          exact ih (by simpa [Printer.hasPair] using hnone.2)
      | cons a before =>
          simp only [List.cons_append, Printer.hasPair, Bool.or_eq_false_iff] at hnone
          exact ih hnone.2

theorem isPrintable_of_hasSpecial {text : List Char} (hnone : Printer.hasSpecial text = false) :
    ∀ c ∈ text, isPrintable c := by
  simpa [Printer.hasSpecial] using hnone

/-! ### What follows a value -/

/-- The characters that a key begins with. -/
def isLetter (c : Char) : Bool := 'a' ≤ c && c ≤ 'z'

/-- What may follow a value: nothing, or the line of a key in a column up to `limit`. -/
def Continues (limit : Nat) (text : List Char) : Prop :=
  text = [] ∨ ∃ width c rest, width ≤ limit ∧ isLetter c ∧ text = indentation width ++ c :: rest

/-- A place at the first key of a text, after its indentation, or at the end of the text. -/
structure Cursor.Landed (cursor : Cursor) (text : List Char) : Prop where
  rest : cursor.rest = text.dropWhile isSpace
  column : cursor.column = (text.takeWhile isSpace).length

theorem Cursor.Landed.left_le {cursor : Cursor} {text : List Char} (hlanded : cursor.Landed text) :
    cursor.left ≤ text.length := by
  rw [Cursor.left_of_rest hlanded.rest]
  exact (List.dropWhile_suffix isSpace).length_le

/-- A letter is none of the characters that have a meaning of their own. -/
theorem ne_of_isLetter {c : Char} (hletter : isLetter c) (other : Char)
    (hother : isLetter other = false) : c ≠ other := by
  rintro rfl
  rw [hletter] at hother
  cases hother

theorem isSpace_of_isLetter {c : Char} (hletter : isLetter c) : isSpace c = false := by
  simpa [isSpace] using ne_of_isLetter hletter ' ' (by decide)

theorem isBlank_of_isLetter {c : Char} (hletter : isLetter c) : isBlank c = false := by
  simp [isBlank, ne_of_isLetter hletter ' ' (by decide), ne_of_isLetter hletter '\t' (by decide)]

theorem isBreak_of_isLetter {c : Char} (hletter : isLetter c) : isBreak c = false := by
  simp [isBreak, ne_of_isLetter hletter '\n' (by decide), ne_of_isLetter hletter '\r' (by decide),
    ne_of_isLetter hletter '\u0085' (by decide), ne_of_isLetter hletter '\u2028' (by decide),
    ne_of_isLetter hletter '\u2029' (by decide)]

theorem takeWhile_indentation {c : Char} (width : Nat) (rest : List Char) (hletter : isLetter c) :
    (indentation width ++ c :: rest).takeWhile isSpace = indentation width := by
  rw [List.takeWhile_append_of_pos, List.takeWhile_cons]
  · simp [isSpace_of_isLetter hletter]
  · intro blank hblank
    simp [isSpace, List.eq_of_mem_replicate hblank]

theorem dropWhile_indentation {c : Char} (width : Nat) (rest : List Char) (hletter : isLetter c) :
    (indentation width ++ c :: rest).dropWhile isSpace = c :: rest := by
  rw [List.dropWhile_append_of_pos, List.dropWhile_cons]
  · simp [isSpace_of_isLetter hletter]
  · intro blank hblank
    simp [isSpace, List.eq_of_mem_replicate hblank]

namespace Continues

variable {limit : Nat} {text : List Char}

theorem mono {wider : Nat} (hcontinues : Continues limit text) (hle : limit ≤ wider) :
    Continues wider text := by
  rcases hcontinues with rfl | ⟨width, c, rest, hwidth, hletter, rfl⟩
  · exact Or.inl rfl
  · exact Or.inr ⟨width, c, rest, Nat.le_trans hwidth hle, hletter, rfl⟩

/-- The text is its indentation and then the end or a letter. -/
theorem shape (hcontinues : Continues limit text) :
    ∃ width rest, width ≤ limit ∧ text = indentation width ++ rest ∧
      (∀ cursor : Cursor, cursor.Landed text ↔ cursor.rest = rest ∧ cursor.column = width) ∧
      ∀ c, rest.head? = some c → isLetter c := by
  rcases hcontinues with rfl | ⟨width, c, rest, hwidth, hletter, rfl⟩
  · refine ⟨0, [], Nat.zero_le _, rfl, fun cursor => ?_, by simp⟩
    exact ⟨fun hlanded => ⟨hlanded.rest, hlanded.column⟩, fun ⟨hrest, hcolumn⟩ => ⟨hrest, hcolumn⟩⟩
  · refine ⟨width, c :: rest, hwidth, rfl, fun cursor => ?_, by simp [hletter]⟩
    have hdrop := dropWhile_indentation width rest hletter
    have htake : ((indentation width ++ c :: rest).takeWhile isSpace).length = width := by
      rw [takeWhile_indentation width rest hletter, indentation, List.length_replicate]
    constructor
    · intro hlanded
      exact ⟨hlanded.rest.trans hdrop, hlanded.column.trans htake⟩
    · rintro ⟨hrest, hcolumn⟩
      exact ⟨hrest.trans hdrop.symm, hcolumn.trans htake.symm⟩

end Continues

/-! ### Gaps -/

namespace Gap

def ofSpaces (count : Nat) : Gap := ⟨indentation count, false, [], []⟩

/-- Breaks, and the indentation of the line after them. -/
def ofBreaks (first : Char) (later : List Char) : Gap := ⟨[], true, [first], later.reverse⟩

@[simp] theorem fold_none : Gap.none.fold = [] := rfl

@[simp] theorem fold_ofSpaces (count : Nat) : (ofSpaces count).fold = indentation count := by
  simp [fold, ofSpaces, indentation]

/-- Other breaks than a line feed are kept. -/
theorem fold_ofBreaks {first : Char} (later : List Char) (hfeed : first ≠ '\n') :
    (ofBreaks first later).fold = first :: later := by
  simp [fold, ofBreaks, hfeed]

end Gap

section Gap

variable {margin fuel : Nat} {gap : Gap} {cursor : Cursor}

/-- A gap ends before a character that is neither a blank nor a break, and at the end. -/
theorem readGap_stop (hfuel : 0 < fuel)
    (hstop : ∀ c, cursor.rest.head? = some c → isBlank c = false ∧ isBreak c = false) :
    readGap margin fuel gap cursor = some (gap, cursor) := by
  obtain ⟨fuel, rfl⟩ := Nat.exists_eq_add_of_lt hfuel
  rw [Nat.zero_add, readGap]
  cases hrest : cursor.rest with
  | nil => rfl
  | cons c rest =>
      obtain ⟨hblank, hbreak⟩ := hstop c (by simp [hrest])
      simp [hblank, hbreak]

theorem readGap_spaces {count : Nat} {rest : List Char} (hbroken : gap.broken = false)
    (hrest : cursor.rest = indentation count ++ rest) (hfuel : cursor.left < fuel)
    (hstop : ∀ c, rest.head? = some c → isBlank c = false ∧ isBreak c = false) :
    readGap margin fuel gap cursor =
      some ({ gap with blanks := indentation count ++ gap.blanks }, cursor.skip count) := by
  induction count generalizing fuel gap cursor with
  | zero =>
      have hhead : cursor.rest = rest := hrest
      rw [Cursor.skip_zero, readGap_stop (by omega) (hhead ▸ hstop)]
      rfl
  | succ count ih =>
      have hcons : cursor.rest = ' ' :: (indentation count ++ rest) := by
        rw [hrest, indentation, List.replicate_succ]
        rfl
      have hleft := Cursor.left_of_rest hcons
      obtain ⟨fuel, rfl⟩ := Nat.exists_eq_add_of_lt (Nat.zero_lt_of_lt hfuel)
      rw [Nat.zero_add, readGap, hcons]
      have hstep := @ih fuel (gap.blank ' ') (cursor.skip 1)
        (by simp [Gap.blank, hbroken]) (by simp [hcons])
        (by simp only [Cursor.skip_left, List.length_cons] at *; omega)
      simp only [isBlank, decide_true, Bool.true_or, if_true, hbroken, Bool.false_and,
        Bool.false_eq_true, if_false, hstep, Cursor.skip_skip, Nat.add_comm 1 count]
      simp [Gap.blank, hbroken, indentation, List.replicate_succ', List.append_assoc]

theorem readGap_ofSpaces {count : Nat} {rest : List Char}
    (hrest : cursor.rest = indentation count ++ rest) (hfuel : cursor.left < fuel)
    (hstop : ∀ c, rest.head? = some c → isBlank c = false ∧ isBreak c = false) :
    readGap margin fuel .none cursor = some (.ofSpaces count, cursor.skip count) := by
  rw [readGap_spaces rfl hrest hfuel hstop]
  simp [Gap.none, Gap.ofSpaces]

/-- Spaces after a break are not part of the gap's text. -/
theorem readGap_indentation {count : Nat} {rest : List Char} (hbroken : gap.broken = true)
    (hrest : cursor.rest = indentation count ++ rest) (hfuel : cursor.left < fuel)
    (hstop : ∀ c, rest.head? = some c → isBlank c = false ∧ isBreak c = false) :
    readGap margin fuel gap cursor = some (gap, cursor.skip count) := by
  induction count generalizing fuel cursor with
  | zero =>
      have hhead : cursor.rest = rest := hrest
      rw [Cursor.skip_zero, readGap_stop (by omega) (hhead ▸ hstop)]
  | succ count ih =>
      have hcons : cursor.rest = ' ' :: (indentation count ++ rest) := by
        rw [hrest, indentation, List.replicate_succ]
        rfl
      have hleft := Cursor.left_of_rest hcons
      obtain ⟨fuel, rfl⟩ := Nat.exists_eq_add_of_lt (Nat.zero_lt_of_lt hfuel)
      rw [Nat.zero_add, readGap, hcons]
      have hstep := @ih fuel (cursor.skip 1) (by simp [hcons])
        (by simp only [Cursor.skip_left, List.length_cons] at *; omega)
      have htab : (' ' == '\t') = false := by decide
      simp only [isBlank, decide_true, Bool.true_or, if_true, htab, Bool.and_false,
        Bool.false_eq_true, if_false, Gap.blank, hbroken, hstep, Cursor.skip_skip,
        Nat.add_comm 1 count]

/-- Further breaks of a gap are added to the first one. -/
theorem readGap_breaks {breaks rest : List Char} {count : Nat} (hbroken : gap.broken = true)
    (hbreaks : ∀ c ∈ breaks, isBreak c ∧ isPrintable c)
    (hrest : cursor.rest = breaks ++ indentation count ++ rest) (hfuel : cursor.left < fuel)
    (hcolumn : breaks = [] → cursor.column = 0)
    (hstop : ∀ c, rest.head? = some c → isBlank c = false ∧ isBreak c = false) :
    ∃ after, readGap margin fuel gap cursor =
        some ({ gap with later := breaks.reverse ++ gap.later }, after) ∧
      after.rest = rest ∧ after.column = count := by
  induction breaks generalizing fuel gap cursor with
  | nil =>
      refine ⟨cursor.skip count, readGap_indentation hbroken hrest hfuel hstop, ?_, ?_⟩
      · simp [hrest, indentation]
      · simp [hcolumn rfl]
  | cons c breaks ih =>
      obtain ⟨hbreak, hprintable⟩ := hbreaks c (List.mem_cons_self)
      have hcons : cursor.rest = c :: (breaks ++ indentation count ++ rest) := hrest
      have hleft := Cursor.left_of_rest hcons
      have hblank : isBlank c = false := by
        rcases isBreak_printable hbreak hprintable with rfl | rfl | rfl <;> decide
      obtain ⟨fuel, rfl⟩ := Nat.exists_eq_add_of_lt (Nat.zero_lt_of_lt hfuel)
      obtain ⟨after, hread, hafter⟩ := @ih fuel (gap.lineBreak [c])
        (cursor.nextLine 1) (by simp [Gap.lineBreak, hbroken])
        (fun other hother => hbreaks other (List.mem_cons_of_mem c hother))
        (by simp [hcons])
        (by simp only [Cursor.nextLine_left, List.length_cons] at *; omega) (fun _ => rfl)
      refine ⟨after, ?_, hafter⟩
      rw [Nat.zero_add, readGap, hcons]
      simp only [hblank, Bool.false_eq_true, if_false, hbreak, if_true,
        Cursor.breakText_of_printable hcons hbreak hprintable,
        Cursor.skipBreak_eq_nextLine hcons hbreak (ne_return_of_printable hprintable), hread]
      simp [Gap.lineBreak, hbroken, push]

/-- A gap that begins with a break and ends with the indentation of a later line. -/
theorem readGap_ofBreaks {c : Char} {breaks rest : List Char} {count : Nat}
    (hbreaks : ∀ d ∈ c :: breaks, isBreak d ∧ isPrintable d)
    (hrest : cursor.rest = c :: (breaks ++ indentation count ++ rest)) (hfuel : cursor.left < fuel)
    (hstop : ∀ c, rest.head? = some c → isBlank c = false ∧ isBreak c = false) :
    ∃ after, readGap margin fuel .none cursor = some (.ofBreaks c breaks, after) ∧
      after.rest = rest ∧ after.column = count := by
  obtain ⟨hbreak, hprintable⟩ := hbreaks c List.mem_cons_self
  have hleft := Cursor.left_of_rest hrest
  have hblank : isBlank c = false := by
    rcases isBreak_printable hbreak hprintable with rfl | rfl | rfl <;> decide
  obtain ⟨fuel, rfl⟩ := Nat.exists_eq_add_of_lt (Nat.zero_lt_of_lt hfuel)
  obtain ⟨after, hread, hafter⟩ := @readGap_breaks margin fuel ⟨[], true, [c], []⟩
    (cursor.nextLine 1) breaks rest count rfl
    (fun d hd => hbreaks d (List.mem_cons_of_mem c hd)) (by simp [hrest])
    (by simp only [Cursor.nextLine_left, List.length_cons] at *; omega) (fun _ => rfl) hstop
  refine ⟨after, ?_, hafter⟩
  rw [Nat.zero_add, readGap, hrest]
  simp only [hblank, Bool.false_eq_true, if_false, hbreak, if_true,
    Cursor.breakText_of_printable hrest hbreak hprintable,
    Cursor.skipBreak_eq_nextLine hrest hbreak (ne_return_of_printable hprintable)]
  simpa [Gap.lineBreak, Gap.none, Gap.ofBreaks] using hread

/-- The end of a line and the indentation of the next key. -/
theorem readGap_lineFeed {limit : Nat} {tail : List Char} (hcontinues : Continues limit tail)
    (hrest : cursor.rest = '\n' :: tail) (hfuel : cursor.left < fuel) :
    ∃ after, readGap margin fuel .none cursor = some (.ofBreaks '\n' [], after) ∧
      after.Landed tail ∧ after.column ≤ limit := by
  obtain ⟨width, rest, hwidth, rfl, hlanded, hhead⟩ := hcontinues.shape
  obtain ⟨after, hread, hafter, hcolumn⟩ := @readGap_ofBreaks margin fuel cursor '\n' [] rest width
    (by simp [isBreak, isPrintable]) (by simpa using hrest) hfuel
    (fun c hc => ⟨isBlank_of_isLetter (hhead c hc), isBreak_of_isLetter (hhead c hc)⟩)
  exact ⟨after, hread, (hlanded after).mpr ⟨hafter, hcolumn⟩, by omega⟩

end Gap

end Rollout.Yaml
