import Rollout.Proofs.Codec.Occurrences
import Rollout.Proofs.Text.Bytes
import Rollout.Proofs.Yaml.Compose

/-!
Typed readers on printed documents. A codec reads a value back from an outline when it finds the
value in the node that the outline is read as; a record is read back field by field.
-/

namespace Rollout

namespace Yaml

/-! ### Whole numbers -/

theorem value?_of_isDigit {c : Char} (hdigit : c.isDigit) :
    Text.Hex.value? c = some (c.toNat - '0'.toNat) ∧ c.toNat - '0'.toNat < 10 := by
  simp only [Char.isDigit, Bool.and_eq_true, decide_eq_true_eq] at hdigit
  have hlow : '0' ≤ c := hdigit.1
  have hhigh : c ≤ '9' := hdigit.2
  refine ⟨by simp [Text.Hex.value?, hlow, hhigh], ?_⟩
  have hbound : c.toNat ≤ 57 := hhigh
  have hzero : '0'.toNat = 48 := rfl
  omega

theorem digitsValue?_ofDigitChars {digits : List Char} (hne : digits ≠ [])
    (hdigits : ∀ c ∈ digits, c.isDigit) :
    digitsValue? 10 digits = some (Nat.ofDigitChars 10 digits 0) := by
  have hfold : ∀ (rest : List Char) (value : Nat), (∀ c ∈ rest, c.isDigit) →
      (rest.foldlM (fun value c => do
        let digit ← Text.Hex.value? c
        if digit < 10 then some (value * 10 + digit) else none) value) =
          some (Nat.ofDigitChars 10 rest value) := by
    intro rest
    induction rest with
    | nil => intro value _; simp
    | cons c rest ih =>
        intro value hrest
        obtain ⟨hvalue, hlt⟩ := value?_of_isDigit (hrest c List.mem_cons_self)
        have htail := ih (10 * value + (c.toNat - '0'.toNat))
          fun d hd => hrest d (List.mem_cons_of_mem c hd)
        rw [Nat.ofDigitChars_cons, ← htail]
        simp only [List.foldlM_cons, hvalue, Option.bind_eq_bind, Option.bind_some, if_pos hlt,
          Nat.mul_comm value 10]
  unfold digitsValue?
  rw [if_neg (by simpa using hne)]
  exact hfold digits 0 hdigits

theorem hasLeadingZero_toDigits (n : Nat) : hasLeadingZero (Nat.toDigits 10 n) = false := by
  rcases Nat.eq_zero_or_pos n with rfl | hpositive
  · rfl
  · have hhead := Text.head?_toDigits hpositive
    unfold hasLeadingZero
    split
    · next heq => simp [heq] at hhead
    · rfl

/-- Without a sign or a base mark, decimal digits are taken as they are. -/
theorem wholeNumber?_of_isDigit {digits : List Char} {value : Nat} (negative : Bool)
    (hdigits : ∀ c ∈ digits, c.isDigit) (hzero : hasLeadingZero digits = false)
    (hvalue : digitsValue? 10 digits = some value) :
    wholeNumber? (if negative then '-' :: digits else digits) =
      some (if negative then -(value : Int) else value) := by
  have hne : ∀ other : Char, other.isDigit = false → other ∉ digits := by
    intro other hother hmem
    rw [hdigits other hmem] at hother
    cases hother
  have hbased : basedDigits digits = (10, digits) := by
    unfold basedDigits
    split
    · exact absurd (by simp) (hne 'x' (by decide))
    · exact absurd (by simp) (hne 'o' (by decide))
    · exact absurd (by simp) (hne 'b' (by decide))
    · rfl
  unfold wholeNumber?
  cases negative with
  | true => simp [hbased, hzero, hvalue]
  | false =>
      simp only [Bool.false_eq_true, if_false]
      split
      · exact absurd List.mem_cons_self (hne '-' (by decide))
      · exact absurd List.mem_cons_self (hne '+' (by decide))
      · simp [hbased, hzero, hvalue]

/-- The reader of whole numbers undoes the printer. -/
theorem wholeNumber?_toString (n : Int) : wholeNumber? (toString n).toList = some n := by
  have hread : ∀ (negative : Bool) (m : Nat),
      wholeNumber? (if negative then '-' :: Nat.toDigits 10 m else Nat.toDigits 10 m) =
        some (if negative then -(m : Int) else m) := by
    intro negative m
    have hdigits : ∀ c ∈ Nat.toDigits 10 m, c.isDigit := fun c hc =>
      Nat.isDigit_of_mem_toDigits (by decide) (by decide) hc
    have hvalue := digitsValue?_ofDigitChars Nat.toDigits_ne_nil hdigits
    rw [Nat.ofDigitChars_ten_toDigits] at hvalue
    exact wholeNumber?_of_isDigit negative hdigits (hasLeadingZero_toDigits m) hvalue
  rw [Int.toString_eq_repr, Int.repr_eq_if]
  split
  · next hsign =>
      have hvalue := hread false n.toNat
      rw [Int.toNat_of_nonneg hsign] at hvalue
      simpa using hvalue
  · next hsign =>
      have hvalue := hread true (-n).toNat
      have hcast : (((-n).toNat : Nat) : Int) = -n := Int.toNat_of_nonneg (by omega)
      rw [hcast] at hvalue
      simpa using hvalue

/-! ### Outlines as documents -/

/-- A scalar has no entries, and stands for an empty mapping only if there is nothing. -/
theorem Item.entries?_scalar (anchors : List (Nat × Node)) (style : Style) (tag : Option String)
    (text : String) : (Item.mk anchors (.scalar style tag text)).entries? =
      if style = .plain ∧ text = "" then some [] else none := by
  unfold entries? resolve?
  split <;> simp_all

namespace Outline

/-- What a reader is given for an outline. -/
def item (v : Outline) : Item := ⟨[], v.node⟩

def entryItems (entries : List (String × Outline)) : List (String × Item) :=
  entries.map fun entry => (entry.1, entry.2.item)

theorem map_fst_entryItems (entries : List (String × Outline)) :
    (entryItems entries).map Prod.fst = entries.map Prod.fst := by
  rw [entryItems, List.map_map]
  rfl

theorem entries?_section (entries : List (String × Outline)) :
    (Outline.section entries).item.entries? = some (entryItems entries) := by
  have hentries : ∀ entries : List (String × Outline),
      (entryNodes entries).mapM (fun entry => do
        let key ← (Item.mk [] entry.1).text?
        return (key, (⟨[], entry.2⟩ : Item))) = some (entryItems entries) := by
    intro entries
    induction entries with
    | nil => rfl
    | cons entry rest ih =>
        obtain ⟨key, v⟩ := entry
        rw [entryNodes, List.mapM_cons, ih]
        rfl
  exact hentries entries

/-- A number of 64 bits is read as it was written. -/
theorem integer?_number {n : Int} (hwide : -0x8000000000000000 ≤ n ∧ n < 0x8000000000000000) :
    (Outline.number n).item.integer? = some n := by
  have htext : (Outline.number n).item.plainText? "tag:yaml.org,2002:int" = some (toString n) := rfl
  simp only [Item.integer?, htext, Option.bind_eq_bind, Option.bind_some, wholeNumber?_toString,
    if_pos hwide]

end Outline

end Yaml

open Yaml (Outline)

/-- A codec reads a value back from an outline. -/
def Codec.Reads {α : Type} (codec : Codec α) (outline : Outline) (value : α) : Prop :=
  codec.read outline.item = some value

namespace Codec

theorem reads_text (text : String) : Codec.text.Reads (.text text) text := rfl

theorem reads_int32 (value : Int32) : int32.Reads (.number value.toInt) value := by
  have hlow := value.le_toInt
  have hhigh := value.toInt_lt
  have hinteger := Outline.integer?_number (n := value.toInt) (by omega)
  have hread : int32.read (Outline.number value.toInt).item =
      (Outline.number value.toInt).item.integer?.bind fun value =>
        if -0x80000000 ≤ value ∧ value < 0x80000000 then some (Int32.ofInt value) else none := rfl
  rw [Reads, hread, hinteger, Option.bind_some, if_pos (by omega), Int32.ofInt_toInt]

end Codec

/-! ### Records -/

namespace Fields

variable {σ α β : Type}

/-- Fields read a value back from the entries of a section. -/
def Reads (fields : Fields σ α) (entries : List (String × Outline)) (value : α) : Prop :=
  fields.read (occurrences (Outline.entryItems entries)) = some value

section Members

variable {entries : List (String × Outline)}

theorem Reads.seq {first : Fields σ (α → β)} {second : Fields σ α} {f : α → β} {value : α}
    (hfirst : first.Reads entries f) (hsecond : second.Reads entries value) :
    Reads (first <*> second) entries (f value) := by
  unfold Reads at hfirst hsecond
  change (do return (← first.read _) (← second.read _)) = some (f value)
  simp [hfirst, hsecond]

theorem Reads.map {fields : Fields σ α} {value : α} (f : α → β)
    (hreads : fields.Reads entries value) : Reads (f <$> fields) entries (f value) :=
  @Reads.seq σ α β entries (pure f) fields f value rfl hreads

/-- With distinct keys, an entry is all that stands for its key. -/
theorem occurrences_eq_singleton {key : String} {v : Outline}
    (hnodup : (entries.map Prod.fst).Nodup) (hmem : (key, v) ∈ entries) :
    occurrences (Outline.entryItems entries) key = [v.item] := by
  rw [← Outline.map_fst_entryItems] at hnodup
  have hfind : Entries.find? key (Outline.entryItems entries) = some v.item :=
    (Entries.find?_eq_some_iff hnodup).mpr (List.mem_map.mpr ⟨_, hmem, rfl⟩)
  rw [occurrences_eq_toList hnodup, hfind, Option.toList_some]

theorem reads_defaulted {key : String} {codec : Codec α} {default : α} {get : σ → α} {v : Outline}
    {value : α} (hnodup : (entries.map Prod.fst).Nodup) (hmem : (key, v) ∈ entries)
    (hreads : codec.Reads v value) : (defaulted key codec default get).Reads entries value := by
  have honly := occurrences_eq_singleton hnodup hmem
  unfold Codec.Reads at hreads
  simp [Reads, defaulted, honly, hreads]

end Members

/-- A record whose fields are all there, each once, is read back. -/
theorem reads_strict {fields : Fields σ σ} {entries : List (String × Outline)} {value : σ}
    (hnodup : (entries.map Prod.fst).Nodup) (hreads : fields.Reads entries value) :
    (strict fields).Reads (.section entries) value := by
  have hentries : Source.entries? (Outline.section entries).item =
      some (Outline.entryItems entries) := Outline.entries?_section entries
  have honce : repeats fields.keys (Outline.entryItems entries) = false :=
    repeats_of_nodup (by rwa [Outline.map_fst_entryItems]) fields.keys
  have hpositions : Source.positions? (Outline.section entries).item = none := rfl
  unfold Reads at hreads
  simp [Codec.Reads, strict, hpositions, hentries, honce, hreads]

end Fields

end Rollout
