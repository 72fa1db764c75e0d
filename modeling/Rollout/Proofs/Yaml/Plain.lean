import Rollout.Proofs.Yaml.Cursor

/-!
Plain scalars on one line. The reader takes a text in words, the printer tests it as a whole; a text
that passes the test can be read from each of its words on.
-/

namespace Rollout.Yaml

open Printer (indentation isPrintable isSpace)

/-! ### Words -/

theorem isStrayColon_block (text : List Char) : isStrayColon false text = false := by
  unfold isStrayColon
  split <;> rfl

theorem endsWord_append {text : List Char} (more : List Char) (hends : endsWord text = false) :
    endsWord (text ++ more) = false := by
  cases text with
  | nil => cases hends
  | cons c rest => exact hends

/-- A piece without blanks, breaks and final colons is read up to where a plain scalar ends. -/
theorem readPiece_word {word rest : List Char} (piece : List Char)
    (hword : ∀ c ∈ word, isBlank c = false ∧ isBreak c = false)
    (hcolon : ∀ before after, word = before ++ ':' :: after → endsWord (after ++ rest) = false)
    (hends : endsPlain false rest) :
    readPiece false piece (word ++ rest) = some (piece.reverse ++ word, rest) := by
  induction word generalizing piece with
  | nil =>
      cases rest with
      | nil => simp [readPiece]
      | cons c rest => simp [readPiece, isStrayColon_block, hends]
  | cons c word ih =>
      obtain ⟨hblank, hbreak⟩ := hword c List.mem_cons_self
      have hgoes : endsPlain false (c :: (word ++ rest)) = false := by
        by_cases hc : c = ':'
        · subst hc
          simp [endsPlain, hblank, hbreak, hcolon [] word rfl]
        · simp [endsPlain, hblank, hbreak, hc]
      have hstep := ih (c :: piece) (fun d hd => hword d (List.mem_cons_of_mem c hd))
        (fun before after heq => hcolon (c :: before) after (by rw [heq]; rfl))
      rw [List.cons_append, readPiece, isStrayColon_block, hgoes]
      simpa using hstep

/-! ### Texts -/

/-- A text that a plain scalar can hold from here to the end of the line. -/
structure PlainRest (text : List Char) : Prop where
  printable : ∀ c ∈ text, isPrintable c
  unbroken : ∀ c ∈ text, isBreak c = false
  colon : ∀ before after, text = before ++ ':' :: after → endsWord after = false
  comment : ∀ before after, text ≠ before ++ ' ' :: '#' :: after
  head : ∀ c, text.head? = some c → c ≠ '#' ∧ c ≠ ' '
  last : ∀ before, text ≠ before ++ [' ']

namespace PlainRest

variable {text : List Char}

/-- After a space, the text goes on as a text of its own. -/
theorem of_append {before after : List Char} (hrest : PlainRest (before ++ ' ' :: after))
    (hspace : ∀ c, after.head? = some c → c ≠ ' ') : PlainRest after where
  printable c hc := hrest.printable c (by simp [hc])
  unbroken c hc := hrest.unbroken c (by simp [hc])
  colon first second heq := hrest.colon (before ++ ' ' :: first) second (by simp [heq])
  comment first second heq := hrest.comment (before ++ ' ' :: first) second (by simp [heq])
  head c hc := by
    refine ⟨?_, hspace c hc⟩
    rintro rfl
    obtain ⟨second, rfl⟩ := List.head?_eq_some_iff.mp hc
    exact hrest.comment before second rfl
  last first heq := hrest.last (before ++ ' ' :: first) (by simp [heq])

/-- The text begins with a word, and ends with it or goes on after some spaces. -/
theorem split (hrest : PlainRest text) (hne : text ≠ []) :
    ∃ word, word ≠ [] ∧ (∀ c ∈ word, isBlank c = false ∧ isBreak c = false) ∧
      (text = word ∨ ∃ count after, after ≠ [] ∧ PlainRest after ∧
        text = word ++ (indentation (count + 1) ++ after)) := by
  obtain ⟨word, hword, hsplit⟩ := exists_word text
  have hchars : ∀ c ∈ text, c ≠ ' ' → isBlank c = false ∧ isBreak c = false := by
    intro c hc hspace
    rw [isBlank_eq_isSpace (hrest.printable c hc)]
    exact ⟨by simpa [isSpace] using hspace, hrest.unbroken c hc⟩
  rcases hsplit with rfl | ⟨count, next, hnext, rfl⟩
  · exact ⟨text, hne, fun c hc => hchars c hc (hword c hc), Or.inl rfl⟩
  · refine ⟨word, ?_, ?_, Or.inr ⟨count, next, ?_, ?_, rfl⟩⟩
    · rintro rfl
      exact (hrest.head ' ' rfl).2 rfl
    · intro c hc
      exact hchars c (List.mem_append_left _ hc) (hword c hc)
    · rintro rfl
      apply hrest.last (word ++ indentation count)
      simp [indentation, List.replicate_succ']
    · have hlast : PlainRest ((word ++ indentation count) ++ ' ' :: next) := by
        simpa [indentation, List.replicate_succ'] using hrest
      exact hlast.of_append hnext

theorem head_append (hrest : PlainRest text) (hne : text ≠ []) (more : List Char) :
    ∀ c, (text ++ more).head? = some c → isBlank c = false ∧ isBreak c = false := by
  intro c hc
  cases text with
  | nil => exact absurd rfl hne
  | cons d rest =>
      obtain rfl : d = c := by simpa using hc
      refine ⟨?_, hrest.unbroken d List.mem_cons_self⟩
      rw [isBlank_eq_isSpace (hrest.printable d List.mem_cons_self)]
      simpa [isSpace] using (hrest.head d rfl).2

end PlainRest

section Words

variable {margin count : Nat} {word rest acc : List Char} {gap : Gap} {cursor : Cursor} {fuel : Nat}

/-- Inside a line no document marker and no comment stands before a word. -/
theorem not_atMarker_or_hash (hcolumn : 0 < cursor.column) (hhash : cursor.rest.head? ≠ some '#') :
    (cursor.atDocumentMarker || cursor.rest.head? == some '#') = false := by
  simp [Cursor.not_atDocumentMarker hcolumn, hhash]

/-- The last word of a plain scalar, at the end of a line. -/
theorem readPlain_last {limit : Nat} {tail : List Char} (hcontinues : Continues limit tail)
    (hmargin : limit < margin) (hword : word ≠ [])
    (hchars : ∀ c ∈ word, isBlank c = false ∧ isBreak c = false)
    (hcolon : ∀ before after, word = before ++ ':' :: after →
      endsWord (after ++ '\n' :: tail) = false)
    (hhash : cursor.rest.head? ≠ some '#') (hcolumn : 0 < cursor.column)
    (hrest : cursor.rest = word ++ '\n' :: tail) :
    ∃ after, readPlain false margin (fuel + 1) acc gap cursor =
        some (acc.reverse ++ gap.fold ++ word, true, after) ∧ after.Landed tail := by
  have hpiece := readPiece_word [] hchars hcolon rfl
  have hnonempty : word.isEmpty = false := by simpa using hword
  obtain ⟨after, hread, hlanded, hstop⟩ := @readGap_lineFeed margin
    ((cursor.skip word.length).left + 1) (cursor.skip word.length) limit tail hcontinues
    (Cursor.rest_skip hrest) (Nat.lt_succ_self _)
  refine ⟨after, ?_, hlanded⟩
  have hends : (endsWord ('\n' :: tail) && !('\n' :: tail).isEmpty) = true := rfl
  have hpast : (!false && decide (after.column < margin)) = true := by
    simp only [Bool.not_false, Bool.true_and, decide_eq_true_eq]
    omega
  rw [readPlain, not_atMarker_or_hash hcolumn hhash]
  simp only [Bool.false_eq_true, if_false, hrest, hpiece, Option.bind_eq_bind,
    Option.bind_some, List.reverse_nil, List.nil_append, hnonempty, hends, if_true, hread,
    hpast]
  simp [push, Gap.ofBreaks, List.append_assoc]

/-- A word of a plain scalar, with spaces after it. -/
theorem readPlain_word (hword : word ≠ [])
    (hchars : ∀ c ∈ word, isBlank c = false ∧ isBreak c = false)
    (hcolon : ∀ before after, word = before ++ ':' :: after →
      endsWord (after ++ (indentation (count + 1) ++ rest)) = false)
    (hhead : ∀ c, rest.head? = some c → isBlank c = false ∧ isBreak c = false)
    (hhash : cursor.rest.head? ≠ some '#') (hpositive : 0 < cursor.column)
    (hmargin : margin ≤ cursor.column)
    (hrest : cursor.rest = word ++ (indentation (count + 1) ++ rest)) :
    readPlain false margin (fuel + 1) acc gap cursor =
      readPlain false margin fuel (push (push acc gap.fold) word) (.ofSpaces (count + 1))
        ((cursor.skip word.length).skip (count + 1)) := by
  have hpiece := readPiece_word [] hchars hcolon rfl
  have hnonempty : word.isEmpty = false := by simpa using hword
  have hread := @readGap_ofSpaces margin ((cursor.skip word.length).left + 1)
    (cursor.skip word.length) (count + 1) rest (Cursor.rest_skip hrest) (Nat.lt_succ_self _) hhead
  have hends : (endsWord (indentation (count + 1) ++ rest) &&
      !(indentation (count + 1) ++ rest).isEmpty) = true := rfl
  have hpast : (!false &&
      decide (((cursor.skip word.length).skip (count + 1)).column < margin)) = false := by
    rw [Bool.not_false, Bool.true_and]
    apply decide_eq_false
    simp only [Cursor.skip_column]
    omega
  rw [readPlain, not_atMarker_or_hash hpositive hhash]
  simp only [Bool.false_eq_true, if_false, hrest, hpiece, Option.bind_eq_bind,
    Option.bind_some, List.reverse_nil, List.nil_append, hnonempty, hends, if_true, hread,
    hpast]

end Words

/-- A plain scalar on one line is read up to the next key. -/
theorem readPlain_rest {margin limit : Nat} {tail : List Char} (hcontinues : Continues limit tail)
    (hmargin : limit < margin) (text acc : List Char) (gap : Gap) (cursor : Cursor) (fuel : Nat)
    (hne : text ≠ []) (hplain : PlainRest text) (hrest : cursor.rest = text ++ '\n' :: tail)
    (hcolumn : margin ≤ cursor.column) (hfuel : cursor.left < fuel) :
    ∃ after, readPlain false margin fuel acc gap cursor =
        some (acc.reverse ++ gap.fold ++ text, true, after) ∧ after.Landed tail := by
  induction hlength : text.length using Nat.strongRecOn generalizing text acc gap cursor fuel with
  | ind length ih =>
      obtain ⟨word, hword, hchars, hsplit⟩ := hplain.split hne
      have hpositive : 0 < cursor.column := by omega
      have hhash : cursor.rest.head? ≠ some '#' := by
        cases text with
        | nil => exact absurd rfl hne
        | cons c rest => simpa [hrest] using (hplain.head c rfl).1
      obtain ⟨fuel, rfl⟩ := Nat.exists_eq_add_of_lt (Nat.zero_lt_of_lt hfuel)
      rw [Nat.zero_add]
      rcases hsplit with rfl | ⟨count, next, hnext, hplainNext, rfl⟩
      · have hcolon : ∀ before after, text = before ++ ':' :: after →
            endsWord (after ++ '\n' :: tail) = false :=
          fun before after heq => endsWord_append _ (hplain.colon before after heq)
        exact readPlain_last hcontinues hmargin hword hchars hcolon hhash hpositive hrest
      · have hassoc : word ++ (indentation (count + 1) ++ next) ++ '\n' :: tail =
            word ++ (indentation (count + 1) ++ (next ++ '\n' :: tail)) := by
          simp [List.append_assoc]
        rw [hassoc] at hrest
        have hcolon : ∀ before after, word = before ++ ':' :: after →
            endsWord (after ++ (indentation (count + 1) ++ (next ++ '\n' :: tail))) = false := by
          intro before after heq
          have hends := hplain.colon before (after ++ (indentation (count + 1) ++ next))
            (by simp [heq])
          simpa [List.append_assoc] using endsWord_append ('\n' :: tail) hends
        have hleft := Cursor.left_of_rest hrest
        simp only [List.length_append, List.length_cons, indentation, List.length_replicate]
          at hlength hleft
        have hstop : ((cursor.skip word.length).skip (count + 1)).rest = next ++ '\n' :: tail :=
          Cursor.rest_skip_indentation (Cursor.rest_skip hrest)
        obtain ⟨after, hafter, hlanded⟩ := ih next.length (by omega) next
          (push (push acc gap.fold) word) (.ofSpaces (count + 1))
          ((cursor.skip word.length).skip (count + 1)) fuel hnext hplainNext hstop
          (by simp only [Cursor.skip_column]; omega) (by simp only [Cursor.skip_left]; omega) rfl
        refine ⟨after, ?_, hlanded⟩
        rw [readPlain_word hword hchars hcolon (hplainNext.head_append hnext _) hhash hpositive
          hcolumn hrest, hafter]
        simp [push, List.append_assoc]

/-! ### Texts that the printer leaves plain -/

theorem hasIndicator_cons {c : Char} {text : List Char}
    (hnone : Printer.hasIndicator (c :: text) = false) :
    Printer.hasIndicator text = false ∧ (∀ after, text = ':' :: after → endsWord after = false) ∧
      (∀ after, text = '#' :: after → isBlank c = false) := by
  unfold Printer.hasIndicator at hnone
  split at hnone
  · next rest heq =>
      obtain ⟨rfl, rfl⟩ := List.cons.inj heq
      simp_all
  · next d rest hcolon heq =>
      obtain ⟨rfl, rfl⟩ := List.cons.inj heq
      simp_all
  · next d rest hcolon hhash heq =>
      obtain ⟨rfl, rfl⟩ := List.cons.inj heq
      refine ⟨hnone, fun after hafter => ?_, fun after hafter => ?_⟩
      · exact absurd hafter (hcolon after)
      · exact absurd hafter (hhash after)
  · next heq => cases heq

theorem hasIndicator_append {before text : List Char}
    (hnone : Printer.hasIndicator (before ++ text) = false) :
    Printer.hasIndicator text = false := by
  induction before with
  | nil => exact hnone
  | cons c before ih => exact ih (hasIndicator_cons hnone).1

/-- A plain text begins with no indicator, and with a dash, a question mark or a colon only inside
of a word. -/
theorem startsIndicator_cons {c : Char} {rest : List Char}
    (hnone : Printer.startsIndicator (c :: rest) = false) :
    "#,[]\x7b\x7d&*!|>'\"%@\x60".toList.contains c = false ∧
      ("-?:".toList.contains c → endsWord rest = false) := by
  simp only [Printer.startsIndicator, Bool.or_eq_false_iff, Bool.and_eq_false_imp] at hnone
  exact ⟨hnone.1.1.1, hnone.1.1.2⟩

theorem plainRest_of_fitsPlain {text : List Char} (hfits : Printer.fitsPlain text) :
    text ≠ [] ∧ PlainRest text := by
  simp only [Printer.fitsPlain, Printer.hasSpecial, Bool.and_eq_true, Bool.not_eq_true',
    List.isEmpty_eq_false_iff, List.any_eq_false, Bool.not_eq_false] at hfits
  obtain ⟨⟨⟨⟨⟨⟨hne, hstart⟩, hend⟩, hbreak⟩, hspecial⟩, hindicator⟩, hinner⟩ := hfits
  refine ⟨hne, ?_, ?_, ?_, ?_, ?_, ?_⟩
  · intro c hc
    simpa using hspecial c hc
  · intro c hc
    simpa using hbreak c hc
  · intro before after heq
    subst heq
    cases hlast : before.getLast? with
    | none =>
        obtain rfl := List.getLast?_eq_none_iff.mp hlast
        exact (startsIndicator_cons hindicator).2 (by decide)
    | some last =>
        obtain ⟨first, rfl⟩ := List.getLast?_eq_some_iff.mp hlast
        rw [List.append_assoc] at hinner
        exact (hasIndicator_cons (hasIndicator_append hinner)).2.1 after rfl
  · rintro before after rfl
    have hspace := (hasIndicator_cons (hasIndicator_append hinner)).2.2 after rfl
    cases hspace
  · intro c hc
    obtain ⟨rest, rfl⟩ := List.head?_eq_some_iff.mp hc
    refine ⟨?_, by simpa [Printer.startsWith, isSpace] using hstart⟩
    rintro rfl
    have hhash := (startsIndicator_cons hindicator).1
    simp at hhash
  · rintro before rfl
    simp [Printer.endsWith, isSpace] at hend

theorem isPrintable_of_isWord {c : Char} (hword : isWord c) : isPrintable c := by
  have hrange : ∀ low high : Char, low ≤ c → c ≤ high → ' ' ≤ low → high ≤ '~' →
      isPrintable c := by
    intro low high hlow hhigh hspace htilde
    simp [isPrintable, Char.le_trans hspace hlow, Char.le_trans hhigh htilde]
  simp only [isWord, Bool.or_eq_true, Bool.and_eq_true, decide_eq_true_eq] at hword
  rcases hword with (((⟨hlow, hhigh⟩ | ⟨hlow, hhigh⟩) | ⟨hlow, hhigh⟩) | rfl) | rfl
  · exact hrange '0' '9' hlow hhigh (by decide) (by decide)
  · exact hrange 'A' 'Z' hlow hhigh (by decide) (by decide)
  · exact hrange 'a' 'z' hlow hhigh (by decide) (by decide)
  · decide
  · decide

/-- Words of letters, digits, dashes and underscores are plain texts. -/
theorem plainRest_of_isWord {text : List Char} (hword : ∀ c ∈ text, isWord c) :
    PlainRest text := by
  have hne : ∀ other : Char, isWord other = false → ∀ c ∈ text, c ≠ other := by
    rintro other hother c hc rfl
    rw [hword c hc] at hother
    cases hother
  refine ⟨?_, ?_, ?_, ?_, ?_, ?_⟩
  · intro c hc
    exact isPrintable_of_isWord (hword c hc)
  · intro c hc
    simp [isBreak, hne '\n' (by decide) c hc, hne '\r' (by decide) c hc,
      hne '\u0085' (by decide) c hc, hne '\u2028' (by decide) c hc,
      hne '\u2029' (by decide) c hc]
  · rintro before after rfl
    exact absurd rfl (hne ':' (by decide) ':' (by simp))
  · rintro before after rfl
    exact absurd rfl (hne '#' (by decide) '#' (by simp))
  · intro c hc
    have hmem := List.mem_of_mem_head? hc
    exact ⟨hne '#' (by decide) c hmem, hne ' ' (by decide) c hmem⟩
  · rintro before rfl
    exact absurd rfl (hne ' ' (by decide) ' ' (by simp))

/-- A key is read up to the colon after it. -/
theorem readPlain_key {margin : Nat} {key rest : List Char} {cursor : Cursor}
    (hword : ∀ c ∈ key, isWord c) (hne : key ≠ []) (hmarker : cursor.atDocumentMarker = false)
    (hends : endsWord rest) (hrest : cursor.rest = key ++ ':' :: rest) :
    readPlain false margin (cursor.left + 1) [] .none cursor =
      some (key, false, cursor.skip key.length) := by
  have hplain := plainRest_of_isWord hword
  have hchars : ∀ c ∈ key, isBlank c = false ∧ isBreak c = false := by
    intro c hc
    refine ⟨?_, hplain.unbroken c hc⟩
    cases hblank : isBlank c with
    | false => rfl
    | true =>
        have hspace := isBlank_printable hblank (hplain.printable c hc)
        have hc := hword c hc
        rw [hspace] at hc
        exact absurd hc (by decide)
  have hcolon : ∀ before after, key = before ++ ':' :: after →
      endsWord (after ++ ':' :: rest) = false := by
    intro before after heq
    exact endsWord_append _ (hplain.colon before after heq)
  have hpiece := readPiece_word [] hchars hcolon (by simp [endsPlain, hends])
  have hhead : cursor.rest.head? ≠ some '#' := by
    cases key with
    | nil => exact absurd rfl hne
    | cons c key => simpa [hrest] using (hplain.head c rfl).1
  have hgoes : (cursor.atDocumentMarker || cursor.rest.head? == some '#') = false := by
    simp [hmarker, hhead]
  have hnonempty : key.isEmpty = false := by simpa using hne
  have hstays : (endsWord (':' :: rest) && !(':' :: rest).isEmpty) = false := rfl
  rw [readPlain, hgoes]
  simp only [Bool.false_eq_true, if_false, hrest, hpiece, Option.bind_eq_bind, Option.bind_some,
    List.reverse_nil, List.nil_append, hnonempty, hstays]
  simp [push]; rfl

end Rollout.Yaml
