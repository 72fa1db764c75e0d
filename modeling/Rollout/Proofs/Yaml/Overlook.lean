import Mathlib.Data.List.Forall2
import Rollout.Proofs.Yaml.Reading

/-!
Differences between documents that typed readers overlook. A record takes from a mapping only the
values that stand for its keys, so a relation between documents which keeps these values, their
numbers and their texts is one that no reader of sections can tell apart. That a codec overlooks
such a relation is shown field by field, along the outline of its defaults.
-/

namespace Rollout

namespace Yaml

/-- What a reader is given where a default may stand: the number, the text, or a mapping without
entries for a section of defaults. -/
def Outline.Stands : Outline → Item → Prop
  | .number n, v => v.integer? = some n
  | .text t, v => v.text? = some t
  | .section _, v => v.entries? = some []

/-- The values that stand for a key before and after: the same ones in another order, others that
are related to them one by one, or a default in the place of none. -/
inductive Alike (R : Outline → Item → Item → Prop) (field : Outline) : List Item → List Item → Prop
  | reordered {old new : List Item} : old.Perm new → Alike R field old new
  | related {old new : List Item} : List.Forall₂ (R field) old new → Alike R field old new
  | default {v : Item} : field.Stands v → Alike R field [] [v]

/-- The values that stand for each key of a section are alike. -/
def AlikeIn (R : Outline → Item → Item → Prop) (known : List (String × Outline))
    (old new : List (String × Item)) : Prop :=
  ∀ field ∈ known, Alike R field.2 (Fields.occurrences old field.1) (Fields.occurrences new field.1)

/-- Relations that keep what is read of numbers and texts, and of a section the values that stand
for its keys. -/
structure Unseen (R : Outline → Item → Item → Prop) : Prop where
  integer : ∀ {n : Int} {v w : Item}, R (.number n) v w → v.integer? = w.integer?
  text : ∀ {t : String} {v w : Item}, R (.text t) v w → v.text? = w.text?
  entries : ∀ {known : List (String × Outline)} {v w : Item}, (known.map Prod.fst).Nodup →
    R (.section known) v w → Option.Rel (AlikeIn R known) v.entries? w.entries?

section Lists

variable {R : Outline → Item → Item → Prop} {field : Outline} {old new : List Item}

/-- Whether a key is repeated is kept. -/
theorem Alike.one_lt_length (halike : Alike R field old new) : 1 < old.length ↔ 1 < new.length := by
  cases halike with
  | reordered hperm => rw [hperm.length_eq]
  | related hrel => rw [hrel.length_eq]
  | default _ => simp

theorem mapM_congr {α β γ : Type} {f : α → Option γ} {g : β → Option γ} {xs : List α} {ys : List β}
    (hsame : List.Forall₂ (fun x y => f x = g y) xs ys) : xs.mapM f = ys.mapM g := by
  induction hsame with
  | nil => rfl
  | cons hhead _ ih => simp only [List.mapM_cons, hhead, ih]

end Lists

end Yaml

open Yaml (Alike AlikeIn Item Outline Unseen)

/-- A codec that reads related values alike, and reads its default wherever the default stands. -/
structure Codec.Overlooks {α : Type} (codec : Codec α) (R : Outline → Item → Item → Prop)
    (field : Outline) (default : α) : Prop where
  related : ∀ {v w : Item}, R field v w → codec.read v = codec.read w
  default : ∀ {v : Item}, field.Stands v → codec.read v = some default

namespace Codec

variable {R : Outline → Item → Item → Prop}

/-- The last value of a key, or the default, is the same for values that are alike. -/
theorem Overlooks.last_eq {α : Type} {codec : Codec α} {field : Outline} {default : α}
    {old new : List Item} (hcodec : codec.Overlooks R field default)
    (halike : Alike R field old new) (honce : old.length ≤ 1) :
    ((old.mapM fun v => codec.read v).bind fun read => some (read.getLast?.getD default)) =
      (new.mapM fun v => codec.read v).bind fun read => some (read.getLast?.getD default) := by
  cases halike with
  | reordered hperm => rw [Fields.eq_of_perm_of_length_le_one hperm honce]
  | related hrel =>
      have hsame := hrel.imp fun _ _ hrelated => hcodec.related hrelated
      rw [Yaml.mapM_congr hsame]
  | default hstands => simp [hcodec.default hstands]

theorem read_text (v : Item) : text.read v = v.text? := rfl

theorem read_int32 (v : Item) : int32.read v = v.integer?.bind fun value =>
    if -0x80000000 ≤ value ∧ value < 0x80000000 then some (Int32.ofInt value) else none := rfl

theorem overlooks_text (hunseen : Unseen R) (value : String) :
    text.Overlooks R (.text value) value := by
  constructor
  · intro v w hrel
    rw [read_text, read_text, hunseen.text hrel]
  · intro v hstands
    exact hstands

theorem overlooks_int32 (hunseen : Unseen R) (value : Int32) :
    int32.Overlooks R (.number value.toInt) value := by
  constructor
  · intro v w hrel
    rw [read_int32, read_int32, hunseen.integer hrel]
  · intro v hstands
    have hinteger : v.integer? = some value.toInt := hstands
    have hlow := value.le_toInt
    have hhigh := value.toInt_lt
    rw [read_int32, hinteger, Option.bind_some, if_pos (by omega), Int32.ofInt_toInt]

end Codec

/-! ### Records -/

namespace Fields

variable {σ α β : Type} {R : Outline → Item → Item → Prop}

/-- Fields that read the same from values that are alike, where no key is repeated. -/
def Overlooks (fields : Fields σ α) (R : Outline → Item → Item → Prop)
    (known : List (String × Outline)) : Prop :=
  ∀ old new : String → List Item,
    (∀ field ∈ known, Alike R field.2 (old field.1) (new field.1) ∧ (old field.1).length ≤ 1) →
      fields.read old = fields.read new

section Members

variable {known : List (String × Outline)}

theorem Overlooks.seq {first : Fields σ (α → β)} {second : Fields σ α}
    (hfirst : first.Overlooks R known) (hsecond : second.Overlooks R known) :
    Overlooks (first <*> second) R known := by
  intro old new halike
  have hf := hfirst old new halike
  have hv := hsecond old new halike
  change (do return (← first.read old) (← second.read old)) =
    (do return (← first.read new) (← second.read new))
  rw [hf, hv]

theorem Overlooks.map {fields : Fields σ α} (f : α → β) (hfields : fields.Overlooks R known) :
    Overlooks (f <$> fields) R known := by
  have hpure : Overlooks (pure f : Fields σ (α → β)) R known := fun _ _ _ => rfl
  exact hpure.seq hfields

theorem overlooks_defaulted {key : String} {codec : Codec α} {default : α} {get : σ → α}
    {outline : Outline} (hmem : (key, outline) ∈ known)
    (hcodec : codec.Overlooks R outline default) :
    (defaulted key codec default get).Overlooks R known := by
  intro old new hknown
  obtain ⟨halike, honce⟩ := hknown _ hmem
  exact hcodec.last_eq halike honce

end Members

/-- Without an alternative spelling, a record is read from its entries. -/
theorem read_strict (fields : Fields σ σ) (v : Item) : (strict fields).read v =
    v.entries?.bind fun entries =>
      if repeats fields.keys entries then none else fields.read (occurrences entries) := rfl

/-- Alike values repeat the same keys. -/
theorem repeats_eq {known : List (String × Outline)} {old new : List (String × Item)}
    (halike : AlikeIn R known old new) :
    repeats (known.map Prod.fst) old = repeats (known.map Prod.fst) new := by
  have hiff : ∀ field ∈ known, 1 < (occurrences old field.1).length ↔
      1 < (occurrences new field.1).length := fun field hmem => (halike field hmem).one_lt_length
  rw [Bool.eq_iff_iff]
  simp only [repeats, List.any_map, List.any_eq_true, Function.comp_apply, decide_eq_true_eq]
  exact exists_congr fun field => and_congr_right (hiff field)

/-- A record that names its fields at most once overlooks what its fields overlook. -/
theorem overlooks_strict {fields : Fields σ σ} {known : List (String × Outline)} {default : σ}
    (hunseen : Unseen R) (hkeys : fields.keys = known.map Prod.fst)
    (hnodup : (known.map Prod.fst).Nodup) (hfields : fields.Overlooks R known)
    (hdefault : fields.read (fun _ => ([] : List Item)) = some default) :
    (strict fields).Overlooks R (.section known) default := by
  constructor
  · intro v w hrel
    have hentries := hunseen.entries hnodup hrel
    rw [read_strict, read_strict, hkeys]
    generalize v.entries? = old at hentries
    generalize w.entries? = new at hentries
    cases hentries with
    | none => rfl
    | some halike =>
        simp only [Option.bind_some, repeats_eq halike]
        split
        · rfl
        · next honce =>
            apply hfields
            intro field hmem
            refine ⟨halike field hmem, ?_⟩
            rw [← repeats_eq halike, repeats, List.any_map, Bool.not_eq_true,
              List.any_eq_false] at honce
            simpa using honce field hmem
  · intro v hstands
    have hentries : v.entries? = some [] := hstands
    have honce : repeats fields.keys ([] : List (String × Item)) = false := by
      simp [repeats, occurrences]
    rw [read_strict, hentries, Option.bind_some, honce]
    exact hdefault

end Fields

end Rollout
