import Mathlib.Data.List.Forall2
import Rollout.Merge.Layer
import Rollout.Proofs.Entries

/-!
Places in a layer, and merging place by place. A place is reached through members of records and
keys of maps. Layers of one type that have the same at every place are the same, and merging two of
them joins what they have at each place: what is there on one side only is kept, and what is set on
both sides is taken from the tight one.
-/

namespace Rollout.Layer

open Entries (Ordered find?)

variable {κ σ : Type}

/-! ### Types of layers -/

/-- The type of a layer. A record goes by its name, so that its members may hold layers of its own
type. -/
inductive Shape where
  | setting
  /-- A layer behind a pointer, which no layer shows. -/
  | boxed (inner : Shape)
  | record (name : String)
  | map (value : Shape)

/-- Layers of a type, where each name of a record stands for the types of its members. A map that
keeps no order has its entries in key order here, and loses nothing by `mergeEntries_of_perm`. -/
inductive HasShape [LT κ] (declared : String → List Shape) : Shape → Layer κ σ → Prop
  | setting (value : Option σ) : HasShape declared .setting (.setting value)
  | boxed {inner : Shape} {layer : Layer κ σ} : HasShape declared inner layer →
      HasShape declared (.boxed inner) layer
  | record {name : String} {members : List (Layer κ σ)} :
      (declared name).length = members.length →
      (∀ (i : Nat) (shape : Shape) (member : Layer κ σ), (declared name)[i]? = some shape →
        members[i]? = some member → HasShape declared shape member) →
      HasShape declared (.record name) (.record members)
  | map {value : Shape} {entries : List (κ × Layer κ σ)} : Ordered entries →
      (∀ entry ∈ entries, HasShape declared value entry.2) →
      HasShape declared (.map value) (.map entries)

/-! ### Places -/

/-- One step into a layer. -/
inductive Step (κ : Type) where
  | member (position : Nat)
  | entry (key : κ)

/-- What a layer is set to, if it is a setting and not open. -/
def value? : Layer κ σ → Option σ
  | .setting value => value
  | _ => none

section Places

variable [DecidableEq κ]

/-- The layer one step further in. -/
def child? (step : Step κ) : Layer κ σ → Option (Layer κ σ)
  | .setting _ => none
  | .record members =>
    match step with
    | .member position => members[position]?
    | .entry _ => none
  | .map entries =>
    match step with
    | .member _ => none
    | .entry key => find? key entries

/-- The layer at a place. -/
def at? : List (Step κ) → Layer κ σ → Option (Layer κ σ)
  | [], layer => some layer
  | step :: rest, layer => (layer.child? step).bind (at? rest)

/-- What a layer sets at a place. -/
def settingAt? (place : List (Step κ)) (layer : Layer κ σ) : Option σ :=
  (layer.at? place).bind value?

/-- What a layer has at a place: nothing at all, or something that may be set. -/
def view (place : List (Step κ)) (layer : Layer κ σ) : Option (Option σ) :=
  (layer.at? place).map value?

@[simp] theorem view_nil (layer : Layer κ σ) : layer.view [] = some layer.value? := rfl

@[simp] theorem view_cons (step : Step κ) (rest : List (Step κ)) (layer : Layer κ σ) :
    layer.view (step :: rest) = (layer.child? step).bind (view rest) :=
  Option.map_bind

@[simp] theorem settingAt?_cons (step : Step κ) (rest : List (Step κ)) (layer : Layer κ σ) :
    layer.settingAt? (step :: rest) = (layer.child? step).bind (settingAt? rest) :=
  Option.bind_assoc ..

theorem settingAt?_eq_join (place : List (Step κ)) (layer : Layer κ σ) :
    layer.settingAt? place = (layer.view place).join := by
  rw [settingAt?, view]
  cases layer.at? place <;> rfl

/-- The type of the layers one step further in. -/
def Shape.child? (declared : String → List Shape) (step : Step κ) : Shape → Option Shape
  | .setting => none
  | .boxed inner => inner.child? declared step
  | .record name =>
    match step with
    | .member position => (declared name)[position]?
    | .entry _ => none
  | .map value =>
    match step with
    | .member _ => none
    | .entry _ => some value

end Places

section Typed

variable [LT κ] {declared : String → List Shape} {shape : Shape}

theorem HasShape.of_forall₂ {name : String} {members : List (Layer κ σ)}
    (hmembers : List.Forall₂ (HasShape declared) (declared name) members) :
    HasShape declared (.record name) (.record members) := by
  refine .record hmembers.length_eq fun i shape member htype hmember => ?_
  obtain ⟨hi, rfl⟩ := List.getElem?_eq_some_iff.mp htype
  obtain ⟨hi', rfl⟩ := List.getElem?_eq_some_iff.mp hmember
  exact hmembers.get hi hi'

/-- What stands one step inside of a layer has the type that stands there in the layer's type. -/
theorem HasShape.child [DecidableEq κ] {layer inner : Layer κ σ} {step : Step κ}
    (hshape : HasShape declared shape layer) (hinner : layer.child? step = some inner) :
    ∃ type, shape.child? declared step = some type ∧ HasShape declared type inner := by
  induction hshape with
  | setting value => cases hinner
  | boxed _ ih => exact ih hinner
  | @record name members hlength hmembers _ =>
      cases step with
      | entry key => cases hinner
      | member position =>
          have hlt : position < (declared name).length := by
            rw [hlength]
            exact (List.getElem?_eq_some_iff.mp hinner).1
          have htype := List.getElem?_eq_getElem hlt
          exact ⟨_, htype, hmembers position _ inner htype hinner⟩
  | map hordered hentries _ =>
      cases step with
      | member position => cases hinner
      | entry key => exact ⟨_, rfl, hentries _ (Entries.mem_of_find? hinner)⟩

variable [LE κ] [Std.IsLinearOrder κ] [Std.LawfulOrderLT κ]

/-- Layers of one type are settled by what they have at each place. -/
theorem HasShape.ext [DecidableEq κ] {first second : Layer κ σ}
    (hfirst : HasShape declared shape first) (hsecond : HasShape declared shape second)
    (hview : ∀ place, first.view place = second.view place) : first = second := by
  induction hfirst generalizing second with
  | setting value =>
      cases hsecond with
      | setting other =>
          have hvalue : value = other := Option.some.inj (hview [])
          rw [hvalue]
  | boxed _ ih =>
      cases hsecond with
      | boxed hother => exact ih hother hview
  | @record name members hlength hmembers ih =>
      cases hsecond with
      | @record _ others hlength' hothers =>
          congr 1
          refine List.ext_getElem (hlength.symm.trans hlength') fun i hi hi' => ?_
          have htype := List.getElem?_eq_getElem (hlength ▸ hi)
          have hmember := List.getElem?_eq_getElem hi
          have hother := List.getElem?_eq_getElem hi'
          refine ih i _ _ htype hmember (hothers i _ _ htype hother) fun place => ?_
          simpa [child?, hmember, hother] using hview (.member i :: place)
  | @map value entries hordered hentries ih =>
      cases hsecond with
      | @map _ others hordered' hothers =>
          congr 1
          refine hordered.ext hordered' fun key => ?_
          have hkey : ∀ place, (find? key entries).bind (view place) =
              (find? key others).bind (view place) := fun place => by
            simpa [child?] using hview (.entry key :: place)
          cases hfind : find? key entries with
          | none =>
              cases hother : find? key others with
              | none => rfl
              | some other => simpa [hfind, hother] using hkey []
          | some layer =>
              cases hother : find? key others with
              | none => simpa [hfind, hother] using hkey []
              | some other =>
                  have hmem := Entries.mem_of_find? hfind
                  have hmem' := Entries.mem_of_find? hother
                  have hsame : layer = other := ih _ hmem (hothers _ hmem') fun place => by
                    simpa [hfind, hother] using hkey place
                  rw [hsame]

end Typed

/-! ### Merging one step at a time -/

section Merging

variable [LT κ] [DecidableLT κ] [DecidableEq κ]

theorem mergeEntries_eq (tight loose : List (κ × Layer κ σ)) :
    mergeEntries tight loose = Entries.mergeWith merge tight loose := by
  induction loose generalizing tight with
  | nil => simp [mergeEntries, Entries.mergeWith]
  | cons entry rest ih =>
      obtain ⟨key, loose⟩ := entry
      rw [mergeEntries, Entries.mergeWith, List.foldl_cons, Entries.insertWith]
      cases find? key tight <;> exact ih _

/-- A key is bound to what both maps have for it, merged where both have something. The order of the
loose entries makes no difference. -/
theorem find?_mergeEntries (tight : List (κ × Layer κ σ)) {loose : List (κ × Layer κ σ)}
    (hnodup : (loose.map Prod.fst).Nodup) (key : κ) :
    find? key (mergeEntries tight loose) =
      (find? key tight).merge merge (find? key loose) := by
  rw [mergeEntries_eq, Entries.find?_mergeWith merge tight hnodup]

theorem getElem?_mergeMembers {tights looses : List (Layer κ σ)}
    (hlength : tights.length = looses.length) (i : Nat) :
    (mergeMembers tights looses)[i]? = tights[i]?.merge merge looses[i]? := by
  induction tights generalizing looses i with
  | nil =>
      obtain rfl := List.length_eq_zero_iff.mp hlength.symm
      simp [mergeMembers]
  | cons tight tights ih =>
      cases looses with
      | nil => cases hlength
      | cons loose looses =>
          cases i with
          | zero => simp [mergeMembers]
          | succ i => simpa [mergeMembers] using ih (Nat.succ.inj hlength) i

theorem length_mergeMembers (tights looses : List (Layer κ σ)) :
    (mergeMembers tights looses).length = tights.length := by
  induction tights generalizing looses with
  | nil => cases looses <;> rfl
  | cons tight tights ih =>
      cases looses with
      | nil => rfl
      | cons loose looses => simp [mergeMembers, ih]

variable {declared : String → List Shape} {shape : Shape} {tight loose : Layer κ σ}

theorem value?_merge (htight : HasShape declared shape tight)
    (hloose : HasShape declared shape loose) :
    (merge tight loose).value? = tight.value?.or loose.value? := by
  induction htight generalizing loose with
  | setting value =>
      cases hloose with
      | setting other => rw [merge]; rfl
  | boxed _ ih =>
      cases hloose with
      | boxed hother => exact ih hother
  | record => cases hloose with | record => rw [merge]; rfl
  | map => cases hloose with | map => rw [merge]; rfl

variable [LE κ] [Std.LawfulOrderLT κ]

theorem child?_merge (htight : HasShape declared shape tight)
    (hloose : HasShape declared shape loose) (step : Step κ) :
    (merge tight loose).child? step = (tight.child? step).merge merge (loose.child? step) := by
  induction htight generalizing loose with
  | setting value =>
      cases hloose with
      | setting other => rw [merge]; rfl
  | boxed _ ih =>
      cases hloose with
      | boxed hother => exact ih hother
  | record hlength =>
      cases hloose with
      | record hlength' =>
          rw [merge]
          cases step with
          | member position => exact getElem?_mergeMembers (hlength.symm.trans hlength') position
          | entry key => rfl
  | map hordered =>
      cases hloose with
      | map hordered' =>
          rw [merge]
          cases step with
          | member position => rfl
          | entry key => exact find?_mergeEntries _ hordered'.nodup key

/-- At each place, a merged layer has what is there on either side, and of two settings that of the
tight layer unless it is open. -/
theorem view_merge (htight : HasShape declared shape tight)
    (hloose : HasShape declared shape loose) (place : List (Step κ)) :
    (tight.merge loose).view place = (tight.view place).merge Option.or (loose.view place) := by
  induction place generalizing shape tight loose with
  | nil => simp [value?_merge htight hloose]
  | cons step rest ih =>
      rw [view_cons, view_cons, view_cons, child?_merge htight hloose]
      cases hmine : tight.child? step with
      | none => simp
      | some mine =>
          cases htheirs : loose.child? step with
          | none => simp
          | some theirs =>
              obtain ⟨type, htype, hmine⟩ := htight.child hmine
              obtain ⟨other, hother, htheirs⟩ := hloose.child htheirs
              obtain rfl : type = other := Option.some.inj (htype.symm.trans hother)
              exact ih hmine htheirs

variable [Std.IsLinearOrder κ]

/-- The order in which the entries of the loose map are taken makes no difference. -/
theorem mergeEntries_of_perm {tights looses others : List (κ × Layer κ σ)}
    (hordered : Ordered tights) (hnodup : (looses.map Prod.fst).Nodup)
    (hperm : looses.Perm others) :
    mergeEntries tights looses = mergeEntries tights others := by
  have hnodup' : (others.map Prod.fst).Nodup := (hperm.map Prod.fst).nodup hnodup
  have hmerged : ∀ looses, Ordered (mergeEntries tights looses) := fun looses => by
    rw [mergeEntries_eq]
    exact hordered.mergeWith _ looses
  refine (hmerged looses).ext (hmerged others) fun key => ?_
  rw [find?_mergeEntries tights hnodup, find?_mergeEntries tights hnodup',
    Entries.find?_of_perm hnodup hperm]

/-- An entry of a merged map is that of one side, or those of both sides merged. -/
theorem mem_mergeEntries {tights looses : List (κ × Layer κ σ)} (hordered : Ordered tights)
    (hordered' : Ordered looses) {key : κ} {layer : Layer κ σ}
    (hmem : (key, layer) ∈ mergeEntries tights looses) :
    (key, layer) ∈ tights ∨ (key, layer) ∈ looses ∨ ∃ mine theirs,
      (key, mine) ∈ tights ∧ (key, theirs) ∈ looses ∧ mine.merge theirs = layer := by
  have hmerged : Ordered (mergeEntries tights looses) := by
    rw [mergeEntries_eq]
    exact hordered.mergeWith _ looses
  have hfind := (Entries.find?_eq_some_iff hmerged.nodup).mpr hmem
  rw [find?_mergeEntries tights hordered'.nodup, Option.merge_eq_some_iff] at hfind
  rcases hfind with ⟨hmine, -⟩ | ⟨-, htheirs⟩ | ⟨mine, theirs, hmine, htheirs, heq⟩
  · exact .inl (Entries.mem_of_find? hmine)
  · exact .inr (.inl (Entries.mem_of_find? htheirs))
  · exact .inr (.inr
      ⟨mine, theirs, Entries.mem_of_find? hmine, Entries.mem_of_find? htheirs, heq⟩)

/-- Layers of one type merge to a layer of that type. -/
theorem HasShape.merge (htight : HasShape declared shape tight)
    (hloose : HasShape declared shape loose) : HasShape declared shape (tight.merge loose) := by
  induction htight generalizing loose with
  | setting value =>
      cases hloose with
      | setting other =>
          rw [Layer.merge]
          exact .setting _
  | boxed _ ih =>
      cases hloose with
      | boxed hother => exact .boxed (ih hother)
  | @record name tights hlength hmembers ih =>
      cases hloose with
      | @record _ looses hlength' hothers =>
          rw [Layer.merge]
          refine .record (hlength.trans (length_mergeMembers tights looses).symm) ?_
          intro i type member htype hmember
          rw [getElem?_mergeMembers (hlength.symm.trans hlength')] at hmember
          have hi : i < (declared name).length := (List.getElem?_eq_some_iff.mp htype).1
          have hmine := List.getElem?_eq_getElem (hlength ▸ hi)
          have htheirs := List.getElem?_eq_getElem (hlength' ▸ hi)
          rw [hmine, htheirs] at hmember
          cases hmember
          exact ih i type _ htype hmine (hothers i type _ htype htheirs)
  | @map value tights hordered hentries ih =>
      cases hloose with
      | @map _ looses hordered' hothers =>
          rw [Layer.merge]
          refine .map ?_ fun entry hentry => ?_
          · rw [mergeEntries_eq]
            exact hordered.mergeWith _ looses
          · rcases mem_mergeEntries hordered hordered' hentry with
              hmine | htheirs | ⟨mine, theirs, hmine, htheirs, heq⟩
            · exact hentries entry hmine
            · exact hothers entry htheirs
            · rw [← heq]
              exact ih _ hmine (hothers _ htheirs)

end Merging

end Rollout.Layer
