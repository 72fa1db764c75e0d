import Rollout.Proofs.Yaml.Reading

/-!
Places in a YAML document, reached through the keys of mappings. In a printed document these are the
places of the outline that was printed.
-/

namespace Rollout.Yaml

/-- The node at some keys, with mappings as readers see them. -/
def Item.at? : List String → Item → Option Item
  | [], item => some item
  | key :: rest, item =>
    item.entries?.bind fun entries => (Entries.find? key entries).bind (Item.at? rest)

theorem Item.at?_scalar (anchors : List (Nat × Node)) (style : Style) (tag : Option String)
    (text key : String) (rest : List String) :
    (Item.mk anchors (.scalar style tag text)).at? (key :: rest) = none := by
  rw [at?, entries?_scalar]
  split <;> rfl

namespace Outline

/-- The part of an outline at some keys. -/
def at? : List String → Outline → Option Outline
  | [], v => some v
  | key :: rest, .section entries => (Entries.find? key entries).bind (at? rest)
  | _ :: _, _ => none

/-- No section has a key twice. -/
inductive HasDistinctKeys : Outline → Prop
  | number (n : Int) : HasDistinctKeys (.number n)
  | text (t : String) : HasDistinctKeys (.text t)
  | section {entries : List (String × Outline)} : (entries.map Prod.fst).Nodup →
      (∀ entry ∈ entries, HasDistinctKeys entry.2) → HasDistinctKeys (.section entries)

@[simp] theorem hasDistinctKeys_section {entries : List (String × Outline)} :
    (Outline.section entries).HasDistinctKeys ↔
      (entries.map Prod.fst).Nodup ∧ ∀ entry ∈ entries, entry.2.HasDistinctKeys := by
  constructor
  · rintro ⟨⟩
    exact ⟨‹_›, ‹_›⟩
  · exact fun hdistinct => .section hdistinct.1 hdistinct.2

attribute [simp] HasDistinctKeys.number HasDistinctKeys.text

/-- What is written for a number or a text. -/
def scalar? : Outline → Option String
  | .number n => some (toString n)
  | .text t => some t
  | .section _ => none

theorem text?_item (v : Outline) : v.item.text? = v.scalar? := by
  cases v <;> rfl

theorem find?_entryItems (key : String) (entries : List (String × Outline)) :
    Entries.find? key (entryItems entries) = (Entries.find? key entries).map item := by
  induction entries with
  | nil => rfl
  | cons entry rest ih =>
      have hcons : entryItems (entry :: rest) = (entry.1, entry.2.item) :: entryItems rest := rfl
      rw [hcons, Entries.find?_cons, Entries.find?_cons, ih]
      split <;> rfl

/-- The places of a printed document are those of its outline. -/
theorem at?_item (keys : List String) (v : Outline) : v.item.at? keys = (v.at? keys).map item := by
  induction keys generalizing v with
  | nil => rfl
  | cons key rest ih =>
      cases v with
      | number n => exact Item.at?_scalar [] .plain none (toString n) key rest
      | text t => exact Item.at?_scalar [] (Printer.form t).style none t key rest
      | «section» entries =>
          rw [Item.at?, entries?_section, Option.bind_some, find?_entryItems, at?]
          cases Entries.find? key entries with
          | none => rfl
          | some inner => exact ih inner

end Outline

end Rollout.Yaml
