import Rollout.Proofs.Yaml.Scan

/-!
A printed document scans to the tokens of its sections. Each section is opened by the scanner at its
first key and closed at the first key to its left, so the tokens follow the nesting of the outline
whatever texts it holds.
-/

namespace Rollout.Yaml

open Printer (indentation isPrintable isSpace)

namespace Outline

mutual

/-- The tokens of the value of an entry. -/
def tokens : Outline → List Token
  | .number n => [.scalar .plain (toString n)]
  | .text t => [.scalar (Printer.form t).style t]
  | .section inner => .blockMappingStart :: entryTokens inner ++ [.blockEnd]

/-- The tokens of the entries of a section. -/
def entryTokens : List (String × Outline) → List Token
  | [] => []
  | (key, v) :: rest => .key :: .scalar .plain key :: .value :: v.tokens ++ entryTokens rest

end

/-- Keys are words that begin with a letter and end long before the scanner gives them up. -/
def isKey : List Char → Bool
  | c :: rest => isLetter c && rest.all isWord && rest.length < 200
  | [] => false

mutual

/-- Sections have entries, and all keys are words. -/
def isWellFormed : Outline → Bool
  | .number _ => true
  | .text _ => true
  | .section inner => !inner.isEmpty && areWellFormed inner

def areWellFormed : List (String × Outline) → Bool
  | [] => true
  | (key, v) :: rest => isKey key.toList && v.isWellFormed && areWellFormed rest

end

end Outline

theorem Outline.isKey_cons {key : List Char} (hkey : isKey key) :
    ∃ c rest, key = c :: rest ∧ isLetter c ∧ (∀ d ∈ rest, isWord d) ∧ rest.length < 200 := by
  cases key with
  | nil => cases hkey
  | cons c rest =>
      simp only [isKey, Bool.and_eq_true, decide_eq_true_eq, List.all_eq_true] at hkey
      exact ⟨c, rest, rfl, hkey.1.1, hkey.1.2, hkey.2⟩

theorem isWord_of_isLetter {c : Char} (hletter : isLetter c) : isWord c := by
  simp only [isLetter, Bool.and_eq_true, decide_eq_true_eq] at hletter
  simp [isWord, hletter.1, hletter.2]

theorem Outline.isWord_of_isKey {key : List Char} (hkey : isKey key) : ∀ c ∈ key, isWord c := by
  obtain ⟨c, rest, rfl, hletter, hrest, -⟩ := isKey_cons hkey
  intro d hd
  rcases List.mem_cons.mp hd with rfl | hd
  · exact isWord_of_isLetter hletter
  · exact hrest d hd

/-- After a value stands the key of the next entry, or what stands after the section. -/
theorem Outline.continues_entries {limit : Nat} {tail : List Char} (column : Nat)
    (entries : List (String × Outline)) (hwell : areWellFormed entries) (hlimit : limit ≤ column)
    (hcontinues : Continues limit tail) :
    Continues column (Printer.entries column entries ++ tail) := by
  cases entries with
  | nil => exact hcontinues.mono hlimit
  | cons entry rest =>
      obtain ⟨key, v⟩ := entry
      simp only [areWellFormed, Bool.and_eq_true] at hwell
      obtain ⟨c, more, hkey, hletter, -⟩ := isKey_cons hwell.1.1
      refine Or.inr ⟨column, c, more ++ ':' :: Printer.value column v ++
        Printer.entries column rest ++ tail, Nat.le_refl _, hletter, ?_⟩
      simp [Printer.entries, hkey, List.append_assoc]

namespace Scanner

/-! ### Numbers -/

/-- A word begins a plain scalar, unless it is a dash alone. -/
theorem plainScalar_of_isWord {c : Char} {rest : List Char} (hword : ∀ d ∈ c :: rest, isWord d)
    (hdash : c = '-' → endsWord rest = false) : PlainScalar c rest := by
  have hplain := plainRest_of_isWord hword
  have hc := hword c List.mem_cons_self
  have hnotMem : ∀ list : List Char, list.all (fun d => !isWord d) → c ∉ list := by
    intro list hlist hmem
    have hother := List.all_eq_true.mp hlist c hmem
    rw [hc] at hother
    cases hother
  refine ⟨⟨?_, ?_, ?_, hplain.unbroken c List.mem_cons_self⟩, hplain⟩
  · have hindicator := hnotMem "#,[]\x7b\x7d&*!|>'\"%@\x60".toList (by decide)
    simpa using hindicator
  · intro hmark
    apply hdash
    have hother := hnotMem "?:".toList (by decide)
    simp_all
  · rw [isBlank_eq_isSpace (hplain.printable c List.mem_cons_self)]
    simpa [isSpace] using (hplain.head c rfl).2

theorem isWord_of_isDigit {c : Char} (hdigit : c.isDigit) : isWord c := by
  simp only [Char.isDigit, Bool.and_eq_true, decide_eq_true_eq] at hdigit
  have hlow : '0' ≤ c := hdigit.1
  have hhigh : c ≤ '9' := hdigit.2
  simp [isWord, hlow, hhigh]

theorem exists_digits (n : Nat) :
    ∃ c rest, n.repr.toList = c :: rest ∧ (∀ d ∈ c :: rest, isWord d) ∧ PlainScalar c rest := by
  obtain ⟨c, rest, hdigits⟩ := List.exists_cons_of_ne_nil (@Nat.toDigits_ne_nil n 10)
  have hdigit : ∀ d ∈ c :: rest, d.isDigit := fun d hd =>
    Nat.isDigit_of_mem_toDigits (by decide) (by decide) (hdigits ▸ hd)
  have hword : ∀ d ∈ c :: rest, isWord d := fun d hd => isWord_of_isDigit (hdigit d hd)
  refine ⟨c, rest, Nat.toList_repr.trans hdigits, hword, plainScalar_of_isWord hword ?_⟩
  rintro rfl
  exact absurd (hdigit '-' List.mem_cons_self) (by decide)

/-- A number is written as a word that stands plain. -/
theorem exists_number (n : Int) :
    ∃ c rest, (toString n).toList = c :: rest ∧ (∀ d ∈ c :: rest, isWord d) ∧
      PlainScalar c rest := by
  rw [Int.toString_eq_repr, Int.repr_eq_if]
  split
  · exact exists_digits n.toNat
  · obtain ⟨c, rest, hdigits, hword, hplain⟩ := exists_digits (-n).toNat
    have hall : ∀ d ∈ '-' :: c :: rest, isWord d := by
      intro d hd
      rcases List.mem_cons.mp hd with rfl | hd
      · decide
      · exact hword d hd
    refine ⟨'-', c :: rest, by simp [hdigits], hall, plainScalar_of_isWord hall fun _ => ?_⟩
    simp [endsWord, hplain.starts.blank, hplain.starts.unbroken]

/-! ### Keys -/

section Keys

variable {column : Nat} {indent : Option Nat} {outer : List (Option Nat)}
  {tokens result : List Token} {key rest : List Char}

/-- The collections around and the tokens before the first key of a section, or a later one. -/
def opened (column : Nat) (indent : Option Nat) (outer : List (Option Nat)) (tokens : List Token) :
    List (Option Nat) × List Token :=
  if isLeftOf indent column then (indent :: outer, .blockMappingStart :: tokens)
  else (outer, tokens)

@[simp] theorem opened_self : opened column (some column) outer tokens = (outer, tokens) := by
  simp [opened, isLeftOf]

@[simp] theorem opened_none :
    opened column none outer tokens = (none :: outer, .blockMappingStart :: tokens) := rfl

theorem opened_of_lt {inner : Nat} (hlt : column < inner) :
    opened inner (some column) outer tokens =
      (some column :: outer, .blockMappingStart :: tokens) := by
  simp [opened, isLeftOf, hlt]

/-- No document marker begins with a letter. -/
theorem not_atMarker_of_isLetter {cursor : Cursor} {c : Char} (hletter : isLetter c)
    (hrest : cursor.rest = c :: rest) (mark : Char) (hmark : isLetter mark = false) :
    cursor.atMarker mark = false := by
  have hne := ne_of_isLetter hletter mark hmark
  unfold Cursor.atMarker
  rw [hrest]
  split
  · next a b d more heq =>
      obtain ⟨rfl, -⟩ := List.cons.inj heq
      simp [hne]
  · simp

/-- Where a key may have begun. -/
def candidateAt (cursor : Cursor) (indent : Option Nat) (position : Nat) : Candidate where
  position
  line := cursor.line
  column := cursor.column
  offset := cursor.offset
  required := indent == some cursor.column

/-- A scanner after a key, at its colon. -/
def atColon (cursor : Cursor) (indent : Option Nat) (outer : List (Option Nat))
    (tokens : List Token) (key : List Char) : Scanner :=
  { block (cursor.skip key.length) false indent outer
      (.scalar .plain (String.ofList key) :: tokens) with
    candidate := some (candidateAt cursor indent tokens.length) }

theorem fetchPlain_key {cursor : Cursor} (hword : ∀ c ∈ key, isWord c) (hne : key ≠ [])
    (hmarker : cursor.atDocumentMarker = false) (hends : endsWord rest)
    (hrest : cursor.rest = key ++ ':' :: rest) :
    (block cursor true indent outer tokens).fetchPlain =
      some (atColon cursor indent outer tokens key) := by
  have hread := fun margin => @readPlain_key margin key rest cursor hword hne hmarker hends hrest
  unfold fetchPlain saveCandidate dropCandidate
  simp [block, atColon, candidateAt, hread, inFlow, emit]

/-- The colon makes a key of the scalar before it, and opens the section of the key. -/
theorem fetchValue_key {cursor : Cursor} (hlength : key.length ≤ 200)
    (hindent : ∀ own, indent = some own → own ≤ cursor.column) :
    (atColon cursor indent outer tokens key).fetchValue =
      some (block (cursor.skip (key.length + 1)) false (some cursor.column)
        (opened cursor.column indent outer tokens).1
        (.value :: .scalar .plain (String.ofList key) :: .key ::
          (opened cursor.column indent outer tokens).2)) := by
  have hbytes := byteLength_le cursor.rest key.length
  have hfresh : isFresh (cursor.skip key.length) (candidateAt cursor indent tokens.length) := by
    simp only [isFresh, candidateAt, Cursor.skip_line, Cursor.skip_offset, true_and,
      decide_eq_true_eq]
    omega
  have hfilter : (atColon cursor indent outer tokens key).candidate.filter
      (isFresh (atColon cursor indent outer tokens key).cursor) =
        some (candidateAt cursor indent tokens.length) := Option.filter_some_pos hfresh
  unfold fetchValue
  simp only [hfilter]
  cases hleft : isLeftOf indent cursor.column with
  | true =>
      have hafter : tokens.length + 1 + 1 - tokens.length = 2 := by omega
      simp [candidateAt, atColon, block, opened, emitAt, rollIndent, inFlow, hleft, skip, emit,
        Cursor.skip_skip, hafter]
  | false =>
      obtain ⟨own, rfl⟩ : ∃ own, indent = some own := by
        cases indent with
        | none => cases hleft
        | some own => exact ⟨own, rfl⟩
      have hown : own = cursor.column := by
        have hle := hindent own rfl
        have hnot : ¬ own < cursor.column := by simpa [isLeftOf] using hleft
        omega
      rw [hown] at hleft
      simp [candidateAt, atColon, block, opened, emitAt, rollIndent, inFlow, hleft, skip, emit,
        Cursor.skip_skip, hown]

/-- A key is only a scalar until the colon after it is read. -/
theorem fetchToken_key {place : Cursor} {c : Char} {more : List Char}
    (hkey : Outline.isKey (c :: more)) (hends : endsWord rest)
    (hrest : place.rest = c :: more ++ ':' :: rest)
    (hindent : ∀ own, indent = some own → own ≤ place.column) :
    ((block place true indent outer tokens).unrollIndent
      fun own => decide (place.column < own)).fetchToken c (more ++ ':' :: rest) =
        some (atColon place indent outer tokens (c :: more)) := by
  have hword := Outline.isWord_of_isKey hkey
  obtain ⟨_, _, heq, hletter, -⟩ := Outline.isKey_cons hkey
  obtain ⟨rfl, rfl⟩ := List.cons.inj heq
  have hdash : c = '-' → endsWord more = false :=
    fun heq => absurd heq (ne_of_isLetter hletter '-' (by decide))
  have hmarker : ∀ mark, isLetter mark = false → place.atMarker mark = false :=
    not_atMarker_of_isLetter hletter hrest
  have hdocument : place.atDocumentMarker = false := by
    simp [Cursor.atDocumentMarker, hmarker '-' (by decide), hmarker '.' (by decide)]
  have hplain := (plainScalar_of_isWord hword hdash).starts.append (':' :: rest)
  have hstay : ∀ own, indent = some own → decide (place.column < own) = false := by
    intro own hown
    simpa using hindent own hown
  rw [unrollIndent_stay hstay, fetchToken_plain rfl (hmarker '-' (by decide))
    (hmarker '.' (by decide)) hplain]
  exact fetchPlain_key hword (List.cons_ne_nil c more) hdocument hends hrest

theorem fetchToken_colon {place : Cursor} (hne : key ≠ []) (hlength : key.length ≤ 200)
    (hends : endsWord rest) (hindent : ∀ own, indent = some own → own ≤ place.column) :
    ((atColon place indent outer tokens key).unrollIndent
      fun own => decide ((place.skip key.length).column < own)).fetchToken ':' rest =
        some (block (place.skip (key.length + 1)) false (some place.column)
          (opened place.column indent outer tokens).1
          (.value :: .scalar .plain (String.ofList key) :: .key ::
            (opened place.column indent outer tokens).2)) := by
  have hpositive : 0 < (place.skip key.length).column := by
    have hkey := List.length_pos_iff.mpr hne
    rw [Cursor.skip_column]
    omega
  have hstay : ∀ own, indent = some own →
      decide ((place.skip key.length).column < own) = false := by
    intro own hown
    have hle := hindent own hown
    apply decide_eq_false
    rw [Cursor.skip_column]
    omega
  rw [@unrollIndent_stay (atColon place indent outer tokens key) _ hstay,
    fetchToken_value (Cursor.not_atMarker '-' hpositive) (Cursor.not_atMarker '.' hpositive) hends]
  exact fetchValue_key hlength hindent

/-- A key and its colon, after white space. -/
theorem Yields.entry {cursor : Cursor} {keyAllowed : Bool} (hkey : Outline.isKey key)
    (hends : endsWord rest) (hindent : ∀ own, indent = some own → own ≤ column)
    (hbefore : cursor.Before keyAllowed (indentation column ++ (key ++ ':' :: rest)))
    (hnext : ∀ next : Cursor, next.rest = rest → column < next.column →
      Yields (block next false (some column) (opened column indent outer tokens).1
        (.value :: .scalar .plain (String.ofList key) :: .key ::
          (opened column indent outer tokens).2)) result) :
    Yields (block cursor keyAllowed indent outer tokens) result := by
  obtain ⟨c, more, rfl, hletter, -, hlength⟩ := Outline.isKey_cons hkey
  have hcontinues : Continues column (indentation column ++ (c :: more ++ ':' :: rest)) :=
    Or.inr ⟨column, c, more ++ ':' :: rest, Nat.le_refl _, hletter, rfl⟩
  obtain ⟨place, hlanded, hleft, hgap⟩ := skipGap_before hcontinues hbefore
  have hrest : place.rest = c :: more ++ ':' :: rest :=
    hlanded.rest.trans (dropWhile_indentation column _ hletter)
  have hcolumn : place.column = column := by
    rw [hlanded.column, List.cons_append, takeWhile_indentation column _ hletter]
    exact List.length_replicate
  rw [← hcolumn] at hindent
  have hplace := Cursor.left_of_rest hrest
  simp only [List.length_append, List.length_cons] at hplace
  have hcolon : (place.skip (c :: more).length).rest = ':' :: rest := Cursor.rest_skip hrest
  have hstarts : StartsToken (place.skip (c :: more).length).rest := by
    rw [hcolon]
    simp [StartsToken, isBlank, isBreak]
  refine Yields.token (hgap indent outer tokens) hrest
    (fetchToken_key hkey hends hrest hindent) ?_ ?_
  · simp only [atColon, block_cursor, Cursor.skip_left, List.length_cons]
    omega
  refine Yields.token (skipGap_stop _ hstarts) hcolon (fetchToken_colon (List.cons_ne_nil c more)
    (by rw [List.length_cons]; omega) hends hindent) ?_ ?_
  · simp only [atColon, block_cursor, Cursor.skip_left, List.length_cons]
    omega
  · rw [hcolumn]
    apply hnext
    · simp [hrest]
    · simp only [Cursor.skip_column, List.length_cons]
      omega

end Keys

/-! ### Values and entries -/

section Entries

variable {result : List Token}

mutual

/-- Scanning goes on after the value of a key with the tokens of the value. -/
theorem Yields.value {column limit : Nat} {outer : List (Option Nat)} {tokens : List Token}
    {tail : List Char} {cursor : Cursor} (v : Outline) (hwell : v.isWellFormed)
    (hlimit : limit ≤ column) (hcontinues : Continues limit tail)
    (hrest : cursor.rest = Printer.value column v ++ tail) (hcolumn : column < cursor.column)
    (hnext : ∀ (next : Cursor) (keyAllowed : Bool), next.Before keyAllowed tail →
      Yields (block next keyAllowed (some column) outer (v.tokens.reverse ++ tokens)) result) :
    Yields (block cursor false (some column) outer tokens) result := by
  cases v with
  | number n =>
      obtain ⟨c, rest, hnumber, -, hplain⟩ := exists_number n
      have htext : String.ofList (c :: rest) = toString n := by
        rw [← hnumber, String.ofList_toList]
      have hfetch := @fetches_plain column limit outer tokens tail c rest hplain hlimit hcontinues
      rw [htext] at hfetch
      have hstarts := hplain.startsToken ('\n' :: tail)
      refine Yields.scalar hfetch hstarts ?_ hcolumn fun next keyAllowed hnextBefore => ?_
      · rw [hrest, Printer.value, hnumber]
        simp
      · simpa [Outline.tokens] using hnext next keyAllowed hnextBefore
  | text t =>
      obtain ⟨c, rest, hprinted, hstarts, hfetch⟩ :=
        @fetches_text column limit outer tokens tail t hlimit hcontinues
      refine Yields.scalar hfetch hstarts ?_ hcolumn fun next keyAllowed hnextBefore => ?_
      · rw [hrest, Printer.value, List.cons_append, hprinted]
      · simpa [Outline.tokens] using hnext next keyAllowed hnextBefore
  | «section» inner =>
      simp only [Outline.isWellFormed, Bool.and_eq_true, Bool.not_eq_true'] at hwell
      have hnonempty : inner ≠ [] := by simpa using hwell.1
      have hwithin : ∀ own, some column = some own → own ≤ column + 2 := by
        intro own hown
        obtain rfl := Option.some.inj hown
        omega
      have hbefore : cursor.Before false (Printer.entries (column + 2) inner ++ tail) :=
        Or.inr ⟨hrest, rfl⟩
      refine Yields.entries inner hwell.2 (Or.inl hnonempty) hwithin (Nat.le_add_right_of_le hlimit)
        hcontinues hbefore fun next keyAllowed hnextBefore => ?_
      rw [opened_of_lt (by omega)]
      refine Yields.close (Or.inr (by omega)) hcontinues hnextBefore ?_
      simpa [Outline.tokens] using hnext next keyAllowed hnextBefore

/-- The same after the entries of a section, which are scanned up to the end of the last value. -/
theorem Yields.entries {column limit : Nat} {indent : Option Nat} {outer : List (Option Nat)}
    {tokens : List Token} {tail : List Char} {cursor : Cursor} {keyAllowed : Bool}
    (entries : List (String × Outline)) (hwell : Outline.areWellFormed entries)
    (hopen : entries ≠ [] ∨ indent = some column)
    (hindent : ∀ own, indent = some own → own ≤ column)
    (hlimit : limit ≤ column) (hcontinues : Continues limit tail)
    (hbefore : cursor.Before keyAllowed (Printer.entries column entries ++ tail))
    (hnext : ∀ (next : Cursor) (keyAllowed : Bool), next.Before keyAllowed tail →
      Yields (block next keyAllowed (some column) (opened column indent outer tokens).1
        ((Outline.entryTokens entries).reverse ++ (opened column indent outer tokens).2)) result) :
    Yields (block cursor keyAllowed indent outer tokens) result := by
  cases entries with
  | nil =>
      obtain rfl : indent = some column := hopen.resolve_left (fun hne => hne rfl)
      simpa [Outline.entryTokens] using hnext cursor keyAllowed hbefore
  | cons entry rest =>
      obtain ⟨key, v⟩ := entry
      simp only [Outline.areWellFormed, Bool.and_eq_true] at hwell
      have hkey : String.ofList key.toList = key := String.ofList_toList
      have hprinted : Printer.entries column ((key, v) :: rest) ++ tail =
          indentation column ++ (key.toList ++
            ':' :: (Printer.value column v ++ (Printer.entries column rest ++ tail))) := by
        simp [Printer.entries, List.append_assoc]
      have hends : endsWord (Printer.value column v ++ (Printer.entries column rest ++ tail)) := by
        cases v <;> rfl
      have hlater := Outline.continues_entries column rest hwell.2 hlimit hcontinues
      rw [hprinted] at hbefore
      refine Yields.entry hwell.1.1 hends hindent hbefore fun place hplace hcolumn => ?_
      rw [hkey]
      refine Yields.value v hwell.1.2 (Nat.le_refl column) hlater hplace hcolumn
        fun after afterAllowed hafter => ?_
      refine Yields.entries rest hwell.2 (Or.inr rfl) (fun own hown => ?_) hlimit hcontinues hafter
        fun next nextAllowed hnextBefore => ?_
      · obtain rfl := Option.some.inj hown
        exact Nat.le_refl column
      · simpa [Outline.entryTokens, List.append_assoc] using hnext next nextAllowed hnextBefore

end

end Entries

end Scanner

/-! ### Characters -/

namespace Printer

theorem isAllowed_of_isPrintable {c : Char} (hprintable : isPrintable c) : isAllowed c := by
  simp only [isPrintable, Bool.or_eq_true, Bool.and_eq_true, decide_eq_true_eq] at hprintable
  rcases hprintable with (rfl | ⟨hlow, hhigh⟩) | ⟨⟨⟨hlow, -⟩, hfirst⟩, hsecond⟩
  · decide
  · simp [isAllowed, hlow, hhigh]
  · simp [isAllowed, hlow, hfirst, hsecond]

theorem all_allowed_of_hasSpecial {text : List Char} (hnone : hasSpecial text = false) :
    text.all isAllowed := by
  rw [List.all_eq_true]
  exact fun c hc => isAllowed_of_isPrintable (isPrintable_of_hasSpecial hnone c hc)

theorem all_allowed_of_isWord {text : List Char} (hword : ∀ c ∈ text, isWord c) :
    text.all isAllowed := by
  rw [List.all_eq_true]
  exact fun c hc => isAllowed_of_isPrintable (isPrintable_of_isWord (hword c hc))

@[simp] theorem all_allowed_indentation (width : Nat) : (indentation width).all isAllowed := by
  rw [List.all_eq_true]
  intro c hc
  rw [List.eq_of_mem_replicate hc]
  decide

theorem all_allowed_hexDigits (count n : Nat) : (hexDigits count n).all isAllowed := by
  have hdigit : ∀ digit, digit < 16 → isAllowed (hexUpper digit) := by decide
  induction count generalizing n with
  | zero => rfl
  | succ count ih => simp [hexDigits, ih, hdigit _ (Nat.mod_lt n (by decide))]

/-- An escape is made of characters that need none. -/
theorem all_allowed_escape (c : Char) : (escape c).all isAllowed := by
  unfold escape
  split
  · next letter hletter =>
      have hallowed : isAllowed letter := by
        unfold escapeLetter? at hletter
        split at hletter <;> cases hletter <;> decide
      simp [hallowed]
      decide
  · split
    · next hprintable => simp [isAllowed_of_isPrintable hprintable]
    · have hmark : isAllowed '\\' ∧ isAllowed 'x' ∧ isAllowed 'u' ∧ isAllowed 'U' := by decide
      split
      · simp [all_allowed_hexDigits, hmark]
      · split <;> simp [all_allowed_hexDigits, hmark]

theorem all_allowed_singleBody {text : List Char} (indent : Nat) (broken : Bool)
    (hall : text.all isAllowed) : (singleBody indent broken text).all isAllowed := by
  induction text generalizing broken with
  | nil => cases broken <;> simp [singleBody]
  | cons c rest ih =>
      have hquote : isAllowed '\x27' := by decide
      simp only [List.all_cons, Bool.and_eq_true] at hall
      rw [singleBody]
      split
      · simp [hall.1, ih _ hall.2]
      · split <;> split <;> simp [hall.1, ih _ hall.2, hquote]

theorem all_allowed_literalBody {text : List Char} (indent : Nat) (broken : Bool)
    (hall : text.all isAllowed) : (literalBody indent broken text).all isAllowed := by
  induction text generalizing broken with
  | nil => rfl
  | cons c rest ih =>
      simp only [List.all_cons, Bool.and_eq_true] at hall
      rw [literalBody]
      split
      · simp [hall.1, ih _ hall.2]
      · split <;> simp [hall.1, ih _ hall.2]

theorem all_allowed_literal {text : List Char} (indent : Nat) (hall : text.all isAllowed) :
    (literal indent text).all isAllowed := by
  have hmarks : isAllowed '|' ∧ isAllowed '2' ∧ isAllowed '\n' := by decide
  have hbody := all_allowed_literalBody indent true hall
  have hchomp : (chompMark text).all isAllowed := by
    unfold chompMark
    split
    · split
      · decide
      · split
        · split <;> decide
        · decide
    · decide
  rw [literal]
  split <;> split <;> simp [hbody, hchomp, hmarks]

theorem all_allowed_scalar (indent : Nat) (text : String) : (scalar indent text).all isAllowed := by
  have hmarks : isAllowed '\n' ∧ isAllowed '\x27' ∧ isAllowed '"' := by decide
  unfold scalar
  cases hform : form text with
  | plain =>
      have hplain := (plainRest_of_fitsPlain (Scanner.fitsPlain_of_form hform)).2
      have hall : text.toList.all isAllowed := by
        rw [List.all_eq_true]
        exact fun c hc => isAllowed_of_isPrintable (hplain.printable c hc)
      simp [hall, hmarks]
  | single =>
      have hfits := (Scanner.fitsSingle_of_form hform).1
      simp only [fitsSingle, Bool.and_eq_true, Bool.not_eq_true'] at hfits
      have hbody := all_allowed_singleBody indent false (all_allowed_of_hasSpecial hfits.1.1)
      simp [singleQuoted, hbody, hmarks]
  | double =>
      have hbody : (text.toList.flatMap escape).all isAllowed := by
        rw [List.all_flatMap, List.all_eq_true]
        exact fun c _ => all_allowed_escape c
      simp [doubleQuoted, hbody, hmarks]
  | literal =>
      have hfits := (Scanner.fitsLiteral_of_form hform).1
      simp only [fitsLiteral, Bool.and_eq_true, Bool.not_eq_true'] at hfits
      exact all_allowed_literal indent (all_allowed_of_hasSpecial hfits.1.1)

mutual

theorem all_allowed_value (column : Nat) (v : Outline) (hwell : v.isWellFormed) :
    (value column v).all isAllowed := by
  have hmarks : isAllowed '\n' ∧ isAllowed ' ' := by decide
  cases v with
  | number n =>
      obtain ⟨c, rest, hnumber, hword, -⟩ := Scanner.exists_number n
      have hall := all_allowed_of_isWord hword
      rw [value, hnumber]
      simp_all
  | text t => simp [value, all_allowed_scalar, hmarks]
  | «section» inner =>
      simp only [Outline.isWellFormed, Bool.and_eq_true] at hwell
      simp [value, all_allowed_entries (column + 2) inner hwell.2, hmarks]

theorem all_allowed_entries (column : Nat) (sections : List (String × Outline))
    (hwell : Outline.areWellFormed sections) : (entries column sections).all isAllowed := by
  cases sections with
  | nil => rfl
  | cons entry rest =>
      obtain ⟨key, v⟩ := entry
      simp only [Outline.areWellFormed, Bool.and_eq_true] at hwell
      have hcolon : isAllowed ':' := by decide
      have hkey := all_allowed_of_isWord (Outline.isWord_of_isKey hwell.1.1)
      have hvalue := all_allowed_value column v hwell.1.2
      have hrest := all_allowed_entries column rest hwell.2
      simp [entries, hkey, hvalue, hrest, hcolon]

end

end Printer

/-! ### Documents -/

/-- A printed document scans to the tokens of its sections. -/
theorem Token.scan?_entries {sections : List (String × Outline)} (hne : sections ≠ [])
    (hwell : Outline.areWellFormed sections) :
    Token.scan? (Printer.entries 0 sections) = some (Outline.section sections).tokens := by
  have hallowed : (!(Printer.entries 0 sections).all isAllowed) = false := by
    simp [Printer.all_allowed_entries 0 sections hwell]
  have hended : Continues 0 [] := Or.inl rfl
  have hcontinues := Outline.continues_entries 0 sections hwell (Nat.le_refl 0) hended
  have hbefore : (Cursor.start (Printer.entries 0 sections)).Before true
      (Printer.entries 0 sections ++ []) := by
    obtain ⟨width, rest, hwidth, htext, hlands, -⟩ := hcontinues.shape
    obtain rfl : width = 0 := Nat.le_zero.mp hwidth
    have hrest : Printer.entries 0 sections = rest := (List.append_nil _).symm.trans htext
    exact Or.inl ⟨(hlands _).mpr ⟨hrest, rfl⟩, rfl⟩
  have hyields : Scanner.Yields (Scanner.start (Printer.entries 0 sections))
      (Outline.section sections).tokens := by
    rw [Scanner.start_eq_block]
    refine Scanner.Yields.entries sections hwell (Or.inl hne) (by simp) (Nat.le_refl 0) hended
      hbefore fun next keyAllowed hnext => ?_
    have hdone := @Scanner.Yields.done next keyAllowed []
      (.blockEnd :: ((Outline.entryTokens sections).reverse ++ [.blockMappingStart])) hnext
    refine Scanner.Yields.close (Or.inl rfl) hended hnext ?_
    simpa [Outline.tokens] using hdone
  unfold Token.scan?
  rw [hallowed, if_neg Bool.false_ne_true]
  exact hyields _ (by simp [Scanner.start, Cursor.start])

end Rollout.Yaml
