import Rollout.Proofs.Yaml.Cursor

/-!
Literal blocks. The printer indents every line that is not empty, and says how the breaks at the
end are to be taken; the reader takes lines and the breaks after them, so the proof goes from line
to line.
-/

namespace Rollout.Yaml

open Printer (indentation isPrintable isSpace literalBody chompMark endsWith startsWith)

/-! ### What is written -/

section Writing

variable {indent : Nat} {line breaks : List Char}

theorem literalBody_line (more : List Char) (hline : ∀ c ∈ line, isBreak c = false) :
    literalBody indent false (line ++ more) = line ++ literalBody indent false more := by
  induction line with
  | nil => rfl
  | cons c line ih =>
      have hrest := ih fun d hd => hline d (List.mem_cons_of_mem c hd)
      simp [literalBody, hline c List.mem_cons_self, hrest]

/-- Empty lines get no indentation, and neither does the end. -/
theorem literalBody_breaks {broken : Bool} (hbreaks : ∀ c ∈ breaks, isBreak c) :
    literalBody indent broken breaks = breaks := by
  induction breaks generalizing broken with
  | nil => rfl
  | cons c breaks ih =>
      have hrest := @ih true fun d hd => hbreaks d (List.mem_cons_of_mem c hd)
      simp [literalBody, hbreaks c List.mem_cons_self, hrest]

theorem literalBody_next {c : Char} (rest : List Char) (hbreaks : ∀ c ∈ breaks, isBreak c)
    (hc : isBreak c = false) :
    literalBody indent true (breaks ++ c :: rest) =
      breaks ++ (indentation indent ++ literalBody indent false (c :: rest)) := by
  induction breaks with
  | nil => simp [literalBody, hc]
  | cons d breaks ih =>
      have hrest := ih fun d hd => hbreaks d (List.mem_cons_of_mem _ hd)
      simp [literalBody, hbreaks d List.mem_cons_self, hrest]

/-- The break that ends a block whose text does not end with one. -/
def blockEnding (text : List Char) : List Char := if endsWith isBreak text then [] else ['\n']

theorem endsWith_of_forall {p : Char → Bool} {text : List Char} {ends : Bool} (hne : text ≠ [])
    (hall : ∀ c ∈ text, p c = ends) : endsWith p text = ends := by
  simp [endsWith, List.getLast?_eq_some_getLast hne, hall _ (List.getLast_mem hne)]

theorem endsWith_append {p : Char → Bool} (before : List Char) {text : List Char}
    (hne : text ≠ []) : endsWith p (before ++ text) = endsWith p text := by
  have hlast := List.getLast?_eq_some_getLast hne
  simp [endsWith, List.getLast?_append, hlast]

theorem blockEnding_append (before : List Char) {text : List Char} (hne : text ≠ []) :
    blockEnding (before ++ text) = blockEnding text := by
  rw [blockEnding, endsWith_append before hne, blockEnding]

end Writing

/-! ### Empty lines and indentation -/

section Breaks

variable {indent : Option Nat} {fuel widest : Nat} {acc : List Char} {cursor : Cursor}

/-- A line begins where its indentation is complete, or with something other than a blank. -/
theorem readBlockBreaks_stop (hfuel : 0 < fuel)
    (hstop : ∀ c, cursor.rest.head? = some c → isBreak c = false ∧
      (isBlank c = false ∨ ∃ width, indent = some width ∧ width ≤ cursor.column)) :
    readBlockBreaks indent fuel acc widest cursor =
      some (acc.reverse, max widest cursor.column, cursor) := by
  obtain ⟨fuel, rfl⟩ := Nat.exists_eq_add_of_lt hfuel
  rw [Nat.zero_add, readBlockBreaks]
  cases hrest : cursor.rest with
  | nil => rfl
  | cons c rest =>
      obtain ⟨hbreak, hblank | ⟨width, rfl, hwidth⟩⟩ := hstop c (by simp [hrest])
      · simp only [isBlank, Bool.or_eq_false_iff, decide_eq_false_iff_not] at hblank
        simp [hblank.1, hblank.2, hbreak]
      · have hpast : ¬ cursor.column < width := by omega
        simp [hpast, hbreak]

theorem readBlockBreaks_spaces {count : Nat} {rest : List Char}
    {result : List Char × Nat × Cursor}
    (hwithin : ∀ width, indent = some width → cursor.column + count ≤ width)
    (hrest : cursor.rest = indentation count ++ rest) (hfuel : cursor.left < fuel)
    (hdone : ∀ fuel, 0 < fuel →
      readBlockBreaks indent fuel acc widest (cursor.skip count) = some result) :
    readBlockBreaks indent fuel acc widest cursor = some result := by
  induction count generalizing fuel cursor with
  | zero => exact hdone fuel (by omega)
  | succ count ih =>
      have hcons : cursor.rest = ' ' :: (indentation count ++ rest) := by
        rw [hrest, indentation, List.replicate_succ]
        rfl
      have hleft := Cursor.left_of_rest hcons
      obtain ⟨fuel, rfl⟩ := Nat.exists_eq_add_of_lt (Nat.zero_lt_of_lt hfuel)
      have hstep : readBlockBreaks indent (fuel + 1) acc widest cursor =
          readBlockBreaks indent fuel acc widest (cursor.skip 1) := by
        rw [readBlockBreaks, hcons]
        cases indent with
        | none => simp
        | some width =>
            have hwidth := hwithin width rfl
            have hin : cursor.column < width := by omega
            simp [hin]
      rw [Nat.zero_add, hstep]
      apply ih
      · intro width hwidth
        have hle := hwithin width hwidth
        simp only [Cursor.skip_column]
        omega
      · simp [hcons]
      · simp only [Cursor.skip_left, List.length_cons] at *
        omega
      · intro fuel hfuel
        rw [Cursor.skip_skip, Nat.add_comm 1 count]
        exact hdone fuel hfuel

theorem readBlockBreaks_break {c : Char} {rest : List Char} (hbreak : isBreak c)
    (hprintable : isPrintable c) (hrest : cursor.rest = c :: rest) :
    readBlockBreaks indent (fuel + 1) acc widest cursor =
      readBlockBreaks indent fuel (c :: acc) (max widest cursor.column) (cursor.nextLine 1) := by
  have hblank : isBlank c = false := by
    rcases isBreak_printable hbreak hprintable with rfl | rfl | rfl <;> decide
  simp only [isBlank, Bool.or_eq_false_iff, decide_eq_false_iff_not] at hblank
  rw [readBlockBreaks, hrest]
  simp [hblank.1, hblank.2, hbreak, Cursor.breakText_of_printable hrest hbreak hprintable,
    Cursor.skipBreak_eq_nextLine hrest hbreak (ne_return_of_printable hprintable), push]

/-- Empty lines, and the indentation of the line after them. -/
theorem readBlockBreaks_lines {breaks rest : List Char} {count : Nat}
    (hbreaks : ∀ c ∈ breaks, isBreak c ∧ isPrintable c)
    (hrest : cursor.rest = breaks ++ (indentation count ++ rest)) (hcolumn : cursor.column = 0)
    (hfuel : cursor.left < fuel) (hwithin : ∀ width, indent = some width → count ≤ width)
    (hstop : ∀ c, rest.head? = some c → isBreak c = false ∧
      (isBlank c = false ∨ ∃ width, indent = some width ∧ width ≤ count)) :
    ∃ after, readBlockBreaks indent fuel acc 0 cursor =
        some (acc.reverse ++ breaks, count, after) ∧
      after.rest = rest ∧ after.column = count := by
  induction breaks generalizing fuel acc cursor with
  | nil =>
      have hafter : (cursor.skip count).rest = rest := Cursor.rest_skip_indentation hrest
      refine ⟨cursor.skip count, ?_, hafter, by simp [hcolumn]⟩
      refine readBlockBreaks_spaces (by simpa [hcolumn] using hwithin) hrest hfuel ?_
      intro fuel hfuel
      rw [readBlockBreaks_stop hfuel (by rw [hafter]; simpa [hcolumn] using hstop)]
      simp [hcolumn]
  | cons c breaks ih =>
      obtain ⟨hbreak, hprintable⟩ := hbreaks c List.mem_cons_self
      have hleft := Cursor.left_of_rest hrest
      obtain ⟨fuel, rfl⟩ := Nat.exists_eq_add_of_lt (Nat.zero_lt_of_lt hfuel)
      obtain ⟨after, hread, hafter⟩ := @ih fuel (c :: acc) (cursor.nextLine 1)
        (fun d hd => hbreaks d (List.mem_cons_of_mem c hd)) (by simp [hrest]) rfl
        (by simp only [Cursor.nextLine_left, List.cons_append, List.length_cons] at *; omega)
      refine ⟨after, ?_, hafter⟩
      rw [Nat.zero_add, readBlockBreaks_break hbreak hprintable hrest, hcolumn, Nat.max_self, hread]
      simp

/-- Empty lines, and the indentation of the next key after the block. -/
theorem readBlockBreaks_tail {limit : Nat} {breaks tail : List Char}
    (hbreaks : ∀ c ∈ breaks, isBreak c ∧ isPrintable c) (hcontinues : Continues limit tail)
    (hrest : cursor.rest = breaks ++ tail) (hcolumn : cursor.column = 0)
    (hfuel : cursor.left < fuel) (hwithin : ∀ width, indent = some width → limit ≤ width) :
    ∃ after widest, readBlockBreaks indent fuel acc 0 cursor =
        some (acc.reverse ++ breaks, widest, after) ∧
      after.Landed tail ∧ after.column ≤ limit := by
  obtain ⟨width, rest, hwidth, rfl, hlanded, hhead⟩ := hcontinues.shape
  obtain ⟨after, hread, hafter, hindented⟩ := @readBlockBreaks_lines indent fuel acc cursor breaks
    rest width hbreaks hrest hcolumn hfuel
    (fun own hown => Nat.le_trans hwidth (hwithin own hown))
    (fun c hc => ⟨isBreak_of_isLetter (hhead c hc), Or.inl (isBlank_of_isLetter (hhead c hc))⟩)
  exact ⟨after, width, hread, (hlanded after).mpr ⟨hafter, hindented⟩, by omega⟩

end Breaks

/-! ### Lines -/

/-- A text that begins with a line is its lines without the breaks at the end, the break after the
last line, and further breaks. Without a break at the end, nothing counts but the lines. -/
def Splits (text body last later : List Char) : Prop :=
  (endsWith isBreak text = false ∧ body = text) ∨ ∃ c, last = [c] ∧ isBreak c ∧
    (∀ d ∈ later, isBreak d) ∧ text = body ++ c :: later

theorem Splits.append (before : List Char) {text body last later : List Char} (hne : text ≠ [])
    (hsplits : Splits text body last later) :
    Splits (before ++ text) (before ++ body) last later := by
  rcases hsplits with ⟨hends, rfl⟩ | ⟨c, rfl, hbreak, hlater, rfl⟩
  · exact Or.inl ⟨(endsWith_append before hne).trans hends, rfl⟩
  · exact Or.inr ⟨c, rfl, hbreak, hlater, by simp⟩

section Lines

variable {width fuel : Nat} {acc pending breaks : List Char} {afterBlank : Bool} {cursor : Cursor}

theorem readBlockLines_stop (hcolumn : cursor.column ≠ width) :
    readBlockLines false width (fuel + 1) acc pending breaks afterBlank cursor =
      some (acc.reverse, pending, breaks, cursor) := by
  rw [readBlockLines, if_pos (Or.inl hcolumn)]

/-- One line, the break after it, and what the empty lines after it come to. -/
theorem readBlockLines_line {c d : Char} {line rest found : List Char} {widest : Nat}
    {after : Cursor} (hcolumn : cursor.column = width)
    (hline : ∀ e ∈ c :: line, isBreak e = false) (hbreak : isBreak d) (hprintable : isPrintable d)
    (hrest : cursor.rest = c :: line ++ d :: rest)
    (hread : readBlockBreaks (some width) ((cursor.skip (c :: line).length).left + 1) [] 0
      ((cursor.skip (c :: line).length).nextLine 1) = some (found, widest, after)) :
    readBlockLines false width (fuel + 1) acc pending breaks afterBlank cursor =
      readBlockLines false width fuel (push acc (pending ++ breaks ++ c :: line)) [d] found
        (isBlank c) after := by
  have hgoes : ¬ (cursor.column ≠ width ∨ cursor.rest.isEmpty = true) := by
    simp [hcolumn, hrest]
  have htake : cursor.rest.takeWhile (fun e => !isBreak e) = c :: line := by
    rw [hrest, List.takeWhile_append_of_pos (by simpa using hline)]
    simp [hbreak]
  have hstop : (cursor.skip (c :: line).length).rest = d :: rest := Cursor.rest_skip hrest
  rw [readBlockLines, if_neg hgoes]
  simp only [Cursor.skipWhile, htake, Cursor.breakText_of_printable hstop hbreak hprintable,
    Cursor.skipBreak_eq_nextLine hstop hbreak (ne_return_of_printable hprintable), hread,
    Option.bind_eq_bind, Option.bind_some, Bool.false_and, Bool.false_eq_true, if_false]
  simp [hrest]

/-- The last line, with the breaks that end the block. -/
theorem readBlockLines_last {limit : Nat} {c d : Char} {line later tail : List Char}
    (hlimit : limit < width) (hcontinues : Continues limit tail) (hcolumn : cursor.column = width)
    (hline : ∀ e ∈ c :: line, isBreak e = false)
    (hbreaks : ∀ e ∈ d :: later, isBreak e ∧ isPrintable e)
    (hrest : cursor.rest = c :: line ++ d :: (later ++ tail)) :
    ∃ after, readBlockLines false width (fuel + 2) acc pending breaks afterBlank cursor =
        some (acc.reverse ++ pending ++ breaks ++ c :: line, [d], later, after) ∧
      after.Landed tail := by
  obtain ⟨hbreak, hprintable⟩ := hbreaks d List.mem_cons_self
  let stop := (cursor.skip (c :: line).length).nextLine 1
  have hleft : stop.left < (cursor.skip (c :: line).length).left + 1 := by
    simp only [stop, Cursor.nextLine_left]
    omega
  obtain ⟨after, widest, hread, hlanded, hafter⟩ := @readBlockBreaks_tail (some width)
    ((cursor.skip (c :: line).length).left + 1) [] stop limit later tail
    (fun e he => hbreaks e (List.mem_cons_of_mem d he)) hcontinues (by simp [stop, hrest]) rfl
    hleft (fun own hown => by obtain rfl := Option.some.inj hown; omega)
  refine ⟨after, ?_, hlanded⟩
  rw [readBlockLines_line hcolumn hline hbreak hprintable hrest hread,
    readBlockLines_stop (by omega)]
  simp [push, List.append_assoc]

/-- A line with another one after it. -/
theorem readBlockLines_next {c d : Char} {line later rest : List Char}
    (hcolumn : cursor.column = width) (hline : ∀ e ∈ c :: line, isBreak e = false)
    (hbreaks : ∀ e ∈ d :: later, isBreak e ∧ isPrintable e)
    (hrest : cursor.rest = c :: line ++ d :: (later ++ (indentation width ++ rest)))
    (hhead : ∀ e, rest.head? = some e → isBreak e = false) :
    ∃ after, readBlockLines false width (fuel + 1) acc pending breaks afterBlank cursor =
        readBlockLines false width fuel (push acc (pending ++ breaks ++ c :: line)) [d] later
          (isBlank c) after ∧
      after.rest = rest ∧ after.column = width ∧ after.left < cursor.left := by
  obtain ⟨hbreak, hprintable⟩ := hbreaks d List.mem_cons_self
  let stop := (cursor.skip (c :: line).length).nextLine 1
  have hleft : stop.left < (cursor.skip (c :: line).length).left + 1 := by
    simp only [stop, Cursor.nextLine_left]
    omega
  obtain ⟨after, hread, hafter, hindented⟩ := @readBlockBreaks_lines (some width)
    ((cursor.skip (c :: line).length).left + 1) [] stop later rest width
    (fun e he => hbreaks e (List.mem_cons_of_mem d he)) (by simp [stop, hrest]) rfl hleft
    (fun own hown => by obtain rfl := Option.some.inj hown; omega)
    (fun e he => ⟨hhead e he, Or.inr ⟨width, rfl, Nat.le_refl width⟩⟩)
  refine ⟨after, ?_, hafter, hindented, ?_⟩
  · rw [readBlockLines_line hcolumn hline hbreak hprintable hrest hread, List.reverse_nil,
      List.nil_append]
  · rw [Cursor.left_of_rest hafter, Cursor.left_of_rest hrest]
    simp only [List.length_append, List.length_cons]
    omega

end Lines

/-- A text from the start of a line on: a last line, which may have breaks after it, or a line and
the breaks before the next one. -/
inductive Lines : List Char → Prop where
  | last {c : Char} {line : List Char} (hline : ∀ e ∈ c :: line, isBreak e = false) :
      Lines (c :: line)
  | ended {c d : Char} {line later : List Char} (hline : ∀ e ∈ c :: line, isBreak e = false)
      (hbreaks : ∀ e ∈ d :: later, isBreak e) : Lines (c :: line ++ d :: later)
  | next {c d e : Char} {line later rest : List Char} (hline : ∀ e ∈ c :: line, isBreak e = false)
      (hbreaks : ∀ e ∈ d :: later, isBreak e) (hhead : isBreak e = false)
      (hrest : Lines (e :: rest)) : Lines (c :: line ++ d :: (later ++ e :: rest))

theorem lines_of_head (text : List Char) (hne : text ≠ [])
    (hhead : ∀ c, text.head? = some c → isBreak c = false) : Lines text := by
  induction hlength : text.length using Nat.strongRecOn generalizing text with
  | ind length ih =>
      obtain ⟨line, more, rfl, hline, hmore⟩ := exists_run (fun c => !isBreak c) text
      have hline : ∀ c ∈ line, isBreak c = false := fun c hc => by simpa using hline c hc
      have hmore : ∀ c, more.head? = some c → isBreak c := fun c hc => by simpa using hmore c hc
      obtain ⟨c, line, rfl⟩ : ∃ c rest, line = c :: rest := by
        cases line with
        | cons c line => exact ⟨c, line, rfl⟩
        | nil =>
            obtain ⟨c, hc⟩ := Option.ne_none_iff_exists'.mp (mt List.head?_eq_none_iff.mp hne)
            have hbreak := hhead c hc
            rw [hmore c hc] at hbreak
            cases hbreak
      cases more with
      | nil =>
          rw [List.append_nil]
          exact .last hline
      | cons d more =>
          obtain ⟨later, next, rfl, hlater, hnext⟩ := exists_run isBreak more
          have hbreaks : ∀ e ∈ d :: later, isBreak e := by
            intro e he
            rcases List.mem_cons.mp he with rfl | he
            · exact hmore e rfl
            · exact hlater e he
          cases next with
          | nil =>
              rw [List.append_nil]
              exact .ended hline hbreaks
          | cons e next =>
              simp only [List.length_append, List.length_cons] at hlength
              have hlines := ih (e :: next).length (by rw [List.length_cons]; omega) (e :: next)
                (List.cons_ne_nil e next) hnext rfl
              exact .next hline hbreaks (hnext e rfl) hlines

/-- The lines of a literal block are read up to the next key, with the breaks that end them. -/
theorem readBlockLines_text {width limit : Nat} {text tail : List Char} (hlimit : limit < width)
    (hcontinues : Continues limit tail) (hlines : Lines text) (acc pending breaks : List Char)
    (afterBlank : Bool) (cursor : Cursor) (fuel : Nat) (hprintable : ∀ c ∈ text, isPrintable c)
    (hrest : cursor.rest = literalBody width false text ++ blockEnding text ++ tail)
    (hcolumn : cursor.column = width) (hfuel : cursor.left < fuel) :
    ∃ body last later after,
      readBlockLines false width fuel acc pending breaks afterBlank cursor =
        some (acc.reverse ++ pending ++ breaks ++ body, last, later, after) ∧
      Splits text body last later ∧ after.Landed tail := by
  induction hlines generalizing acc pending breaks afterBlank cursor fuel with
  | @last c line hline =>
      have hend := endsWith_of_forall (List.cons_ne_nil c line) hline
      have hbody : literalBody width false (c :: line) = c :: line := by
        simpa [literalBody] using literalBody_line [] hline
      rw [blockEnding, hend, hbody] at hrest
      have hleft := Cursor.left_of_rest hrest
      simp only [List.length_append, List.length_cons] at hleft
      obtain ⟨fuel, rfl⟩ : ∃ rest, fuel = rest + 2 := ⟨fuel - 2, by omega⟩
      obtain ⟨after, hread, hlanded⟩ := @readBlockLines_last width fuel acc pending breaks
        afterBlank cursor limit c '\n' line [] tail hlimit hcontinues hcolumn hline
        (by simp [isBreak, isPrintable]) (by simpa using hrest)
      exact ⟨c :: line, ['\n'], [], after, hread, Or.inl ⟨hend, by simp⟩, hlanded⟩
  | @ended c d line later hline hbreaks =>
      have hboth : ∀ e ∈ d :: later, isBreak e ∧ isPrintable e := fun e he =>
        ⟨hbreaks e he, hprintable e (List.mem_append_right _ he)⟩
      have hend : endsWith isBreak (c :: line ++ d :: later) = true := by
        rw [endsWith_append _ (List.cons_ne_nil d later)]
        exact endsWith_of_forall (List.cons_ne_nil d later) hbreaks
      rw [literalBody_line _ hline, literalBody_breaks hbreaks, blockEnding, hend] at hrest
      have hleft := Cursor.left_of_rest hrest
      simp only [List.length_append, List.length_cons] at hleft
      obtain ⟨fuel, rfl⟩ : ∃ rest, fuel = rest + 2 := ⟨fuel - 2, by omega⟩
      obtain ⟨after, hread, hlanded⟩ := @readBlockLines_last width fuel acc pending breaks
        afterBlank cursor limit c d line later tail hlimit hcontinues hcolumn hline hboth
        (by simpa using hrest)
      have hlater : ∀ e ∈ later, isBreak e := fun e he => hbreaks e (List.mem_cons_of_mem d he)
      exact ⟨c :: line, [d], later, after, hread,
        Or.inr ⟨d, rfl, hbreaks d List.mem_cons_self, hlater, by simp⟩, hlanded⟩
  | @next c d e line later rest hline hbreaks hhead hlines ih =>
      have hboth : ∀ f ∈ d :: later, isBreak f ∧ isPrintable f := by
        intro f hf
        refine ⟨hbreaks f hf, hprintable f ?_⟩
        rcases List.mem_cons.mp hf with rfl | hf
        · simp
        · simp [hf]
      have hlater : ∀ f ∈ later, isBreak f := fun f hf => hbreaks f (List.mem_cons_of_mem d hf)
      have hending := blockEnding_append (c :: line ++ d :: later) (List.cons_ne_nil e rest)
      simp only [List.append_assoc, List.cons_append] at hending
      have hwritten : cursor.rest = c :: line ++ d :: (later ++ (indentation width ++
          (literalBody width false (e :: rest) ++ blockEnding (e :: rest) ++ tail))) := by
        rw [hrest, literalBody_line _ hline, literalBody, if_pos (hbreaks d List.mem_cons_self),
          literalBody_next rest hlater hhead]
        simp only [List.append_assoc, List.cons_append, hending]
      have hleft := Cursor.left_of_rest hwritten
      simp only [List.length_append, List.length_cons] at hleft
      obtain ⟨fuel, rfl⟩ := Nat.exists_eq_add_of_lt (Nat.zero_lt_of_lt hfuel)
      obtain ⟨stop, hstep, hstop, hcolumnStop, hleftStop⟩ := @readBlockLines_next width fuel acc
        pending breaks afterBlank cursor c d line later
        (literalBody width false (e :: rest) ++ blockEnding (e :: rest) ++ tail) hcolumn
        hline hboth (by simpa using hwritten) (by simp [literalBody, hhead])
      obtain ⟨body, last, found, after, hread, hsplits, hlanded⟩ := ih
        (push acc (pending ++ breaks ++ c :: line)) [d] later (isBlank c) stop fuel
        (fun f hf => hprintable f (by simp_all)) hstop hcolumnStop (by omega)
      refine ⟨c :: line ++ d :: (later ++ body), last, found, after, ?_, ?_, hlanded⟩
      · rw [Nat.zero_add, hstep, hread]
        simp [push, List.append_assoc]
      · simpa using hsplits.append (c :: line ++ d :: later) (List.cons_ne_nil e rest)

/-! ### Chomping -/

/-- The mark of a chomping. -/
def Chomp.mark : Chomp → List Char
  | .strip => ['-']
  | .clip => []
  | .keep => ['+']

/-- What a chomping keeps of the lines, the break after them and further breaks. -/
def Chomp.kept (chomp : Chomp) (body last later : List Char) : List Char :=
  match chomp with
  | .strip => body
  | .clip => body ++ last
  | .keep => body ++ last ++ later

/-- The printer marks a text by how it ends. -/
theorem chompMark_cases {text : List Char} (hne : text ≠ []) :
    ∃ chomp : Chomp, chompMark text = chomp.mark ∧
      (endsWith isBreak text = false → chomp = .strip) ∧
      (endsWith isBreak text = true → chomp = .keep ∨ (chomp = .clip ∧
        ∃ before c d, text = before ++ [c, d] ∧ isBreak c = false)) := by
  obtain ⟨before, last, rfl⟩ : ∃ before last, text = before ++ [last] :=
    ⟨_, _, (List.dropLast_concat_getLast hne).symm⟩
  have hends : endsWith isBreak (before ++ [last]) = isBreak last := by simp [endsWith]
  rw [hends]
  unfold chompMark
  rw [List.reverse_append, List.reverse_singleton, List.singleton_append]
  cases hlast : isBreak last with
  | false => exact ⟨.strip, by simp [hlast, Chomp.mark], fun _ => rfl, by simp⟩
  | true =>
      simp only [hlast, Bool.not_true, Bool.false_eq_true, if_false]
      cases hbefore : before.reverse with
      | nil => exact ⟨.keep, rfl, by simp, fun _ => Or.inl rfl⟩
      | cons c rest =>
          cases hc : isBreak c with
          | true => exact ⟨.keep, by simp [hc, Chomp.mark], by simp, fun _ => Or.inl rfl⟩
          | false =>
              refine ⟨.clip, by simp [hc, Chomp.mark], by simp, fun _ => Or.inr ⟨rfl, ?_⟩⟩
              refine ⟨rest.reverse, c, last, ?_, hc⟩
              rw [← List.reverse_reverse before, hbefore]
              simp

/-- The chomping that the printer chose keeps the whole text. -/
theorem kept_of_splits {chomp : Chomp} {text body last later : List Char}
    (hstrip : endsWith isBreak text = false → chomp = .strip)
    (hkeep : endsWith isBreak text = true → chomp = .keep ∨ (chomp = .clip ∧
      ∃ before c d, text = before ++ [c, d] ∧ isBreak c = false))
    (hsplits : Splits text body last later) : chomp.kept body last later = text := by
  rcases hsplits with ⟨hends, rfl⟩ | ⟨b, rfl, hbreak, hlater, rfl⟩
  · rw [hstrip hends]
    rfl
  · have hends : endsWith isBreak (body ++ b :: later) = true := by
      rw [endsWith_append body (List.cons_ne_nil b later)]
      apply endsWith_of_forall (List.cons_ne_nil b later)
      simpa [hbreak] using hlater
    rcases hkeep hends with rfl | ⟨rfl, before, c, d, heq, hc⟩
    · simp [Chomp.kept]
    · cases hlast : later.getLast? with
      | none =>
          obtain rfl := List.getLast?_eq_none_iff.mp hlast
          rfl
      | some e =>
          obtain ⟨middle, rfl⟩ := List.getLast?_eq_some_iff.mp hlast
          have hinit : body ++ b :: middle = before ++ [c] := by
            have hsame : (body ++ b :: middle) ++ [e] = (before ++ [c]) ++ [d] := by
              simpa using heq
            exact (List.append_inj' hsame rfl).1
          have hends : endsWith isBreak (body ++ b :: middle) = true := by
            rw [endsWith_append body (List.cons_ne_nil b middle)]
            apply endsWith_of_forall (List.cons_ne_nil b middle)
            intro f hf
            rcases List.mem_cons.mp hf with rfl | hf
            · exact hbreak
            · exact hlater f (by simp [hf])
          rw [hinit] at hends
          simp [endsWith, hc] at hends

/-! ### The whole block -/

/-- The indicators that the printer writes are read back. -/
theorem readBlockHeader_mark (chomp : Chomp) (hinted : Bool) (rest : List Char) :
    readBlockHeader ((if hinted then ['2'] else []) ++ chomp.mark ++ '\n' :: rest) =
      some (chomp, if hinted then some 2 else none, '\n' :: rest) := by
  cases hinted <;> cases chomp <;> rfl

/-- The place after a header with nothing but the end of the line behind it. -/
theorem skipLineEnd_lineFeed {cursor : Cursor} {rest : List Char}
    (hrest : cursor.rest = '\n' :: rest) : skipLineEnd cursor = some (cursor.nextLine 1) := by
  have hblank : cursor.skipWhile isBlank = cursor :=
    Cursor.skipWhile_eq_self (by simp [hrest, isBlank])
  unfold skipLineEnd
  rw [hblank]
  simp [hrest, endsLine, isBreak, Cursor.skipBreak_eq_nextLine hrest]

/-- After its header, a block is put together from the empty lines that it begins with and from its
other lines. -/
theorem readBlock_start {column : Nat} {chomp : Chomp} {hinted : Bool} {written : List Char}
    {cursor : Cursor}
    (hrest : cursor.rest = (if hinted then ['2'] else []) ++ chomp.mark ++ '\n' :: written) :
    ∃ start : Cursor, start.rest = written ∧ start.column = 0 ∧
      ∀ {breaks body last later : List Char} {widest : Nat} {first after : Cursor},
        readBlockBreaks (if hinted then some (column + 2) else none) (start.left + 1) [] 0 start =
          some (breaks, widest, first) →
        (hinted = false → widest = column + 2) →
        readBlockLines false (column + 2) (first.left + 1) [] [] breaks false first =
          some (body, last, later, after) →
        readBlock false (some column) cursor = some (chomp.kept body last later, after) := by
  have hheader := readBlockHeader_mark chomp hinted written
  rw [← hrest] at hheader
  have hupTo : (cursor.upTo ('\n' :: written)).rest = '\n' :: written := by
    rw [Cursor.upTo_eq_skip hrest]
    exact Cursor.rest_skip hrest
  refine ⟨(cursor.upTo ('\n' :: written)).nextLine 1, by simp [hupTo], rfl, ?_⟩
  intro breaks body last later widest first after hbreaks hwidest hlines
  have hdeclared : (if hinted then some 2 else none).map (fun w => (some column).getD 0 + w) =
      if hinted then some (column + 2) else none := by
    cases hinted <;> rfl
  have hwidth : (if hinted then some (column + 2) else none).getD (max widest (column + 1)) =
      column + 2 := by
    cases hinted with
    | true => rfl
    | false =>
        rw [hwidest rfl]
        simp
  unfold readBlock
  simp only [hheader, skipLineEnd_lineFeed hupTo, hdeclared, hbreaks, hwidth, hlines,
    Option.bind_eq_bind, Option.bind_some]
  cases chomp <;> rfl

/-- A literal block is read back, with all of the breaks at its end. -/
theorem readBlock_literal {column limit : Nat} {text tail : List Char} {cursor : Cursor}
    (hne : text ≠ []) (hprintable : ∀ c ∈ text, isPrintable c) (hlimit : limit ≤ column)
    (hcontinues : Continues limit tail)
    (hrest : '|' :: cursor.rest = Printer.literal (column + 2) text ++ tail) :
    ∃ after, readBlock false (some column) cursor = some (text, after) ∧ after.Landed tail := by
  obtain ⟨chomp, hmark, hstrip, hkeep⟩ := chompMark_cases hne
  let hinted := startsWith (fun c => isSpace c || isBreak c) text
  obtain ⟨start, hstart, hcolumn, hparts⟩ := @readBlock_start column chomp hinted
    (literalBody (column + 2) true text ++ blockEnding text ++ tail) cursor (by
      simp only [Printer.literal, hmark] at hrest
      simpa [hinted, blockEnding] using hrest)
  obtain ⟨breaks, next, rfl, hbreaks, hnext⟩ := exists_run isBreak text
  have hbreaks' : ∀ c ∈ breaks, isBreak c ∧ isPrintable c :=
    fun c hc => ⟨hbreaks c hc, hprintable c (List.mem_append_left next hc)⟩
  cases next with
  | nil =>
      rw [List.append_nil] at *
      have hends := endsWith_of_forall hne hbreaks
      obtain rfl : chomp = .keep := by
        rcases hkeep hends with rfl | ⟨-, before, c, d, rfl, hc⟩
        · rfl
        · rw [hbreaks c (by simp)] at hc
          cases hc
      have hhinted : hinted = true := by
        cases breaks with
        | nil => exact absurd rfl hne
        | cons c rest => simp [hinted, startsWith, hbreaks c]
      rw [literalBody_breaks hbreaks, blockEnding, hends, if_pos rfl, List.append_nil] at hstart
      obtain ⟨after, widest, hread, hlanded, hafter⟩ := @readBlockBreaks_tail (some (column + 2))
        (start.left + 1) [] start limit breaks tail hbreaks' hcontinues hstart hcolumn
        (Nat.lt_succ_self _) (fun own hown => by obtain rfl := Option.some.inj hown; omega)
      refine ⟨after, ?_, hlanded⟩
      rw [hhinted] at hparts
      exact hparts hread (by simp) (readBlockLines_stop (by omega))
  | cons c next =>
      have hc := hnext c rfl
      have hstop : isBlank c = false ∨ hinted = true := by
        cases hinting : hinted with
        | true => exact Or.inr rfl
        | false =>
            left
            rw [isBlank_eq_isSpace (hprintable c (by simp))]
            cases breaks with
            | nil => simpa [hinted, startsWith, hc] using hinting
            | cons b rest => simp [hinted, startsWith, hbreaks b] at hinting
      rw [literalBody_next next hbreaks hc, blockEnding_append breaks (List.cons_ne_nil c next),
        List.append_assoc, List.append_assoc, List.append_assoc] at hstart
      obtain ⟨first, hread, hfirst, hindented⟩ := @readBlockBreaks_lines
        (if hinted then some (column + 2) else none) (start.left + 1) [] start breaks _ (column + 2)
        hbreaks' hstart hcolumn (Nat.lt_succ_self _) (by cases hinted <;> simp) (by
          intro d hd
          obtain rfl : c = d := by simpa [literalBody, hc] using hd
          exact ⟨hc, hstop.imp_right fun htrue => by simp [htrue]⟩)
      have hlines := lines_of_head (c :: next) (List.cons_ne_nil c next) hnext
      obtain ⟨body, last, later, after, htext, hsplits, hlanded⟩ :=
        @readBlockLines_text (column + 2) limit (c :: next) tail (by omega) hcontinues hlines [] []
          breaks false first (first.left + 1) (fun d hd => hprintable d (by simp_all))
          (by simpa [List.append_assoc] using hfirst) hindented (Nat.lt_succ_self _)
      refine ⟨after, ?_, hlanded⟩
      rw [hparts hread (fun _ => rfl) htext, List.reverse_nil, List.nil_append, List.nil_append,
        kept_of_splits hstrip hkeep (hsplits.append breaks (List.cons_ne_nil c next))]

end Rollout.Yaml
