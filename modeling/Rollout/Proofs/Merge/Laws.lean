import Rollout.Proofs.Merge.Place

/-!
The laws of merging, which hold for layers of every type, also where maps hold layers of the type
that they stand in. Merging may be bracketed in any way, a layer that is merged a second time
changes nothing, and a layer that sets nothing is neutral. The order of two layers matters only
where both set something, and set it differently.
-/

namespace Rollout.Layer

open Entries (Ordered)

variable {κ σ : Type}

/-! ### Layers that set nothing -/

/-- All settings are open and all maps empty. -/
inductive IsBlank : Layer κ σ → Prop
  | setting : IsBlank (.setting none)
  | record {members : List (Layer κ σ)} : (∀ member ∈ members, IsBlank member) →
      IsBlank (.record members)
  | map : IsBlank (.map [])

mutual

/-- The layer with all settings open and all maps empty. -/
def cleared : Layer κ σ → Layer κ σ
  | .setting _ => .setting none
  | .record members => .record (clearedMembers members)
  | .map _ => .map []

def clearedMembers : List (Layer κ σ) → List (Layer κ σ)
  | [] => []
  | member :: rest => cleared member :: clearedMembers rest

end

theorem clearedMembers_eq (members : List (Layer κ σ)) :
    clearedMembers members = members.map cleared := by
  induction members with
  | nil => rfl
  | cons member rest ih => rw [clearedMembers, ih, List.map_cons]

/-- Every type that has a layer has a blank one. -/
theorem HasShape.cleared [LT κ] {declared : String → List Shape} {shape : Shape}
    {layer : Layer κ σ} (hshape : HasShape declared shape layer) :
    HasShape declared shape layer.cleared ∧ IsBlank layer.cleared := by
  induction hshape with
  | setting value => exact ⟨.setting none, .setting⟩
  | boxed _ ih => exact ⟨.boxed ih.1, ih.2⟩
  | map => exact ⟨.map .nil (fun _ hmem => nomatch hmem), .map⟩
  | @record name members hlength hmembers ih =>
      rw [Layer.cleared, clearedMembers_eq]
      constructor
      · refine .record (by rw [hlength, List.length_map]) fun i shape member htype hmember => ?_
        rw [List.getElem?_map, Option.map_eq_some_iff] at hmember
        obtain ⟨old, hold, rfl⟩ := hmember
        exact (ih i shape old htype hold).1
      · refine .record fun member hmember => ?_
        obtain ⟨old, hold, rfl⟩ := List.mem_map.mp hmember
        obtain ⟨i, hi, hold⟩ := List.mem_iff_getElem.mp hold
        have htype := List.getElem?_eq_getElem (hlength ▸ hi)
        exact (ih i _ old htype (by rw [List.getElem?_eq_getElem hi, hold])).2

section Blank

variable [DecidableEq κ] {blank inner : Layer κ σ}

theorem IsBlank.child {step : Step κ} (hblank : IsBlank blank)
    (hinner : blank.child? step = some inner) : IsBlank inner := by
  cases hblank with
  | setting => cases hinner
  | map => cases step <;> cases hinner
  | record hmembers =>
      cases step with
      | entry key => cases hinner
      | member position => exact hmembers inner (List.mem_of_getElem? hinner)

/-- A blank layer sets nothing anywhere. -/
theorem IsBlank.settingAt? (hblank : IsBlank blank) (place : List (Step κ)) :
    blank.settingAt? place = none := by
  induction place generalizing blank with
  | nil => cases hblank <;> rfl
  | cons step rest ih =>
      rw [settingAt?_cons]
      cases hinner : blank.child? step with
      | none => rfl
      | some inner => exact ih (hblank.child hinner)

variable [LT κ] {declared : String → List Shape} {shape : Shape} {layer : Layer κ σ}

/-- What stands one step inside of a blank layer stands there in every layer of its type. -/
theorem IsBlank.exists_child (hblank : IsBlank blank) (hshape : HasShape declared shape blank)
    (hlayer : HasShape declared shape layer) {step : Step κ}
    (hinner : blank.child? step = some inner) : ∃ other, layer.child? step = some other := by
  induction hshape generalizing layer with
  | setting => cases hinner
  | boxed _ ih =>
      cases hlayer with
      | boxed hlayer => exact ih hblank hlayer hinner
  | map =>
      cases hblank
      cases step <;> cases hinner
  | @record name members hlength =>
      cases hlayer with
      | @record _ others hlength' =>
          cases step with
          | entry key => cases hinner
          | member position =>
              have hposition : position < members.length :=
                (List.getElem?_eq_some_iff.mp hinner).1
              have hposition' : position < others.length := hlength' ▸ hlength ▸ hposition
              exact ⟨_, List.getElem?_eq_getElem hposition'⟩

theorem IsBlank.isSome_view (hblank : IsBlank blank) (hshape : HasShape declared shape blank)
    (hlayer : HasShape declared shape layer) (place : List (Step κ))
    (hthere : (blank.view place).isSome) : (layer.view place).isSome := by
  induction place generalizing blank layer shape with
  | nil => rfl
  | cons step rest ih =>
      rw [view_cons] at hthere ⊢
      cases hinner : blank.child? step with
      | none => simp [hinner] at hthere
      | some inner =>
          obtain ⟨other, hother⟩ := hblank.exists_child hshape hlayer hinner
          obtain ⟨type, htype, hinnerShape⟩ := hshape.child hinner
          obtain ⟨type', htype', hotherShape⟩ := hlayer.child hother
          obtain rfl : type = type' := Option.some.inj (htype.symm.trans htype')
          rw [hother]
          exact ih (hblank.child hinner) hinnerShape hotherShape (by simpa [hinner] using hthere)

end Blank

/-! ### Layers that go together -/

section Compatible

variable [DecidableEq κ]

/-- No setting has different values in two layers. -/
def Compatible (first second : Layer κ σ) : Prop :=
  ∀ place x y, first.settingAt? place = some x → second.settingAt? place = some y → x = y

theorem Compatible.setting {first second : Option σ}
    (hsame : ∀ x y, first = some x → second = some y → x = y) :
    Compatible (.setting first : Layer κ σ) (.setting second) := by
  intro place x y hx hy
  cases place with
  | nil => exact hsame x y hx hy
  | cons step rest => cases hx

/-- What is no setting itself goes together where all that stands one step further in does. -/
theorem Compatible.of_child {first second : Layer κ σ} (hfirst : first.value? = none)
    (hchild : ∀ (step : Step κ) mine theirs, first.child? step = some mine →
      second.child? step = some theirs → Compatible mine theirs) : Compatible first second := by
  intro place x y hx hy
  cases place with
  | nil => cases hfirst.symm.trans hx
  | cons step rest =>
      rw [settingAt?_cons] at hx hy
      obtain ⟨mine, hmine, hx⟩ := Option.bind_eq_some_iff.mp hx
      obtain ⟨theirs, htheirs, hy⟩ := Option.bind_eq_some_iff.mp hy
      exact hchild step mine theirs hmine htheirs rest x y hx hy

theorem Compatible.record {firsts seconds : List (Layer κ σ)}
    (hmembers : List.Forall₂ Compatible firsts seconds) :
    Compatible (.record firsts) (.record seconds) := by
  refine .of_child rfl fun step mine theirs hmine htheirs => ?_
  cases step with
  | entry key => cases hmine
  | member position =>
      obtain ⟨hi, rfl⟩ := List.getElem?_eq_some_iff.mp hmine
      obtain ⟨hi', rfl⟩ := List.getElem?_eq_some_iff.mp htheirs
      exact hmembers.get hi hi'

theorem Compatible.map {firsts seconds : List (κ × Layer κ σ)}
    (hentries : ∀ mine ∈ firsts, ∀ theirs ∈ seconds, mine.1 = theirs.1 →
      Compatible mine.2 theirs.2) :
    Compatible (.map firsts) (.map seconds) := by
  refine .of_child rfl fun step mine theirs hmine htheirs => ?_
  cases step with
  | member position => cases hmine
  | entry key =>
      exact hentries _ (Entries.mem_of_find? hmine) _ (Entries.mem_of_find? htheirs) rfl

end Compatible

/-! ### The laws -/

section Views

variable {first second : Option (Option σ)}

theorem merge_views_again (first second : Option (Option σ)) :
    (first.merge Option.or second).merge Option.or first = first.merge Option.or second := by
  cases first with
  | none => rw [Option.merge_none_right]
  | some mine =>
      cases second with
      | none => simp
      | some theirs => cases mine <;> cases theirs <;> rfl

/-- Where no two different settings meet, the sides can change places. -/
theorem merge_views_comm
    (hsame : ∀ x y, first.join = some x → second.join = some y → x = y) :
    first.merge Option.or second = second.merge Option.or first := by
  match first, second with
  | none, _ => rw [Option.merge_none_left, Option.merge_none_right]
  | _, none => rw [Option.merge_none_left, Option.merge_none_right]
  | some none, some theirs => cases theirs <;> rfl
  | some (some x), some none => rfl
  | some (some x), some (some y) => rw [hsame x y rfl rfl]

/-- What is not set, and not there where the other side is not, is neutral. -/
theorem merge_views_unset (hunset : first.join = none) (hthere : first.isSome → second.isSome) :
    first.merge Option.or second = second ∧ second.merge Option.or first = second := by
  match first, second with
  | none, _ => exact ⟨Option.merge_none_left, Option.merge_none_right⟩
  | some none, some theirs => cases theirs <;> exact ⟨rfl, rfl⟩
  | some none, none => cases hthere rfl
  | some (some x), _ => cases hunset

end Views

section Laws

variable [LE κ] [LT κ] [DecidableLT κ] [DecidableEq κ] [Std.IsLinearOrder κ]
  [Std.LawfulOrderLT κ] {declared : String → List Shape} {shape : Shape} {a b c : Layer κ σ}

theorem merge_assoc (ha : HasShape declared shape a) (hb : HasShape declared shape b)
    (hc : HasShape declared shape c) : (a.merge b).merge c = a.merge (b.merge c) := by
  refine ((ha.merge hb).merge hc).ext (ha.merge (hb.merge hc)) fun place => ?_
  rw [view_merge (ha.merge hb) hc, view_merge ha hb, view_merge ha (hb.merge hc),
    view_merge hb hc]
  exact Std.Associative.assoc _ _ _

theorem merge_self (ha : HasShape declared shape a) : a.merge a = a := by
  refine (ha.merge ha).ext ha fun place => ?_
  rw [view_merge ha ha]
  exact Std.IdempotentOp.idempotent _

/-- What a layer has been completed by, it does not undo. -/
theorem merge_again (ha : HasShape declared shape a) (hb : HasShape declared shape b) :
    (a.merge b).merge a = a.merge b := by
  refine ((ha.merge hb).merge ha).ext (ha.merge hb) fun place => ?_
  rw [view_merge (ha.merge hb) ha, view_merge ha hb, merge_views_again]

theorem merge_comm (ha : HasShape declared shape a) (hb : HasShape declared shape b)
    (hsame : Compatible a b) : a.merge b = b.merge a := by
  refine (ha.merge hb).ext (hb.merge ha) fun place => ?_
  rw [view_merge ha hb, view_merge hb ha]
  apply merge_views_comm
  rw [← settingAt?_eq_join, ← settingAt?_eq_join]
  exact hsame place

theorem IsBlank.neutral {blank : Layer κ σ} (hblank : IsBlank blank)
    (hshape : HasShape declared shape blank) (ha : HasShape declared shape a) :
    blank.merge a = a ∧ a.merge blank = a := by
  have hneutral : ∀ place, (blank.view place).merge Option.or (a.view place) = a.view place ∧
      (a.view place).merge Option.or (blank.view place) = a.view place := fun place =>
    merge_views_unset (by rw [← settingAt?_eq_join, hblank.settingAt?])
      (hblank.isSome_view hshape ha place)
  constructor
  · refine (hshape.merge ha).ext ha fun place => ?_
    rw [view_merge hshape ha, (hneutral place).1]
  · refine (ha.merge hshape).ext ha fun place => ?_
    rw [view_merge ha hshape, (hneutral place).2]

/-- Merging layers of one type is associative, takes up no layer twice, has the blank layer as its
neutral one, and does not mind the order of layers that go together. -/
theorem merge_lawful (ha : HasShape declared shape a) (hb : HasShape declared shape b)
    (hc : HasShape declared shape c) :
    (a.merge b).merge c = a.merge (b.merge c) ∧
    a.merge a = a ∧
    ((a.merge b).merge a = a.merge b ∧ a.merge (a.merge b) = a.merge b) ∧
    (∃ blank : Layer κ σ, HasShape declared shape blank ∧ IsBlank blank) ∧
    (∀ blank : Layer κ σ, HasShape declared shape blank → IsBlank blank →
      blank.merge a = a ∧ a.merge blank = a) ∧
    (Compatible a b → a.merge b = b.merge a) := by
  have hagain : a.merge (a.merge b) = a.merge b := by
    rw [← merge_assoc ha ha hb, merge_self ha]
  exact ⟨merge_assoc ha hb hc, merge_self ha, ⟨merge_again ha hb, hagain⟩,
    ⟨a.cleared, ha.cleared⟩, fun blank hshape hblank => hblank.neutral hshape ha,
    merge_comm ha hb⟩

end Laws

/-! A type whose maps hold layers of the type itself, with three layers of it. Two of them go
together where they meet, and the third one sets a different limit. -/

/-- A tenant has a limit, limits behind a pointer, and tenants of its own. -/
def tenantTypes (name : String) : List Shape :=
  if name = "tenant" then [.setting, .boxed (.record "limits"), .map (.record "tenant")]
  else if name = "limits" then [.setting, .setting]
  else []

def tenant (limit rate burst : Option Nat) (inner : List (String × Layer String Nat)) :
    Layer String Nat :=
  .record [.setting limit, .record [.setting rate, .setting burst], .map inner]

theorem hasShape_tenant (limit rate burst : Option Nat) {inner : List (String × Layer String Nat)}
    (hordered : Ordered inner)
    (hinner : ∀ entry ∈ inner, HasShape tenantTypes (.record "tenant") entry.2) :
    HasShape tenantTypes (.record "tenant") (tenant limit rate burst inner) := by
  have hlimits : HasShape tenantTypes (.record "limits")
      (.record [.setting rate, .setting burst] : Layer String Nat) :=
    .of_forall₂ (.cons (.setting rate) (.cons (.setting burst) .nil))
  exact .of_forall₂
    (.cons (.setting limit) (.cons (.boxed hlimits) (.cons (.map hordered hinner) .nil)))

/-- Two tenants go together if they do setting for setting and tenant for tenant. -/
theorem compatible_tenant {limit rate burst limit' rate' burst' : Option Nat}
    {inner inner' : List (String × Layer String Nat)}
    (hlimit : ∀ x y, limit = some x → limit' = some y → x = y)
    (hrate : ∀ x y, rate = some x → rate' = some y → x = y)
    (hburst : ∀ x y, burst = some x → burst' = some y → x = y)
    (hinner : ∀ mine ∈ inner, ∀ theirs ∈ inner', mine.1 = theirs.1 →
      Compatible mine.2 theirs.2) :
    Compatible (tenant limit rate burst inner) (tenant limit' rate' burst' inner') := by
  have hlimits : Compatible (.record [.setting rate, .setting burst] : Layer String Nat)
      (.record [.setting rate', .setting burst']) :=
    .record (.cons (.setting hrate) (.cons (.setting hburst) .nil))
  exact .record (.cons (.setting hlimit) (.cons hlimits (.cons (.map hinner) .nil)))

def teams : Layer String Nat :=
  tenant (some 1) none none [("ops", tenant none (some 2) none [])]

def squads : Layer String Nat :=
  tenant (some 1) (some 3) none
    [("dev", tenant none none none []),
      ("ops", tenant none (some 2) (some 4) [("night", tenant (some 5) none none [])])]

def rivals : Layer String Nat := tenant (some 9) none none [("ops", tenant (some 9) none none [])]

theorem merge_lawful_tenants :
    HasShape tenantTypes (.record "tenant") teams ∧
    HasShape tenantTypes (.record "tenant") squads ∧
    HasShape tenantTypes (.record "tenant") rivals ∧
    (teams.merge squads).merge rivals = teams.merge (squads.merge rivals) ∧
    teams.merge squads = squads.merge teams ∧ ¬ Compatible teams rivals := by
  have hleaf : ∀ limit rate burst,
      HasShape tenantTypes (.record "tenant") (tenant limit rate burst []) :=
    fun limit rate burst => hasShape_tenant limit rate burst .nil fun _ hmem => nomatch hmem
  have hops : HasShape tenantTypes (.record "tenant")
      (tenant none (some 2) (some 4) [("night", tenant (some 5) none none [])]) :=
    hasShape_tenant _ _ _ (List.pairwise_singleton _ _) (by simp [hleaf])
  have hteams : HasShape tenantTypes (.record "tenant") teams :=
    hasShape_tenant _ _ _ (List.pairwise_singleton _ _) (by simp [hleaf])
  have hsquads : HasShape tenantTypes (.record "tenant") squads :=
    hasShape_tenant _ _ _ (List.pairwise_pair.mpr (by decide)) (by simp [hleaf, hops])
  have hrivals : HasShape tenantTypes (.record "tenant") rivals :=
    hasShape_tenant _ _ _ (List.pairwise_singleton _ _) (by simp [hleaf])
  have hsame : Compatible teams squads := by
    refine compatible_tenant (by simp) (by simp) (by simp) ?_
    simp only [List.mem_cons, List.not_mem_nil, or_false, forall_eq_or_imp, forall_eq]
    refine ⟨fun heq => absurd heq (by decide), fun _ => ?_⟩
    exact compatible_tenant (by simp) (by simp) (by simp) (fun _ hmem => nomatch hmem)
  have hrival : ¬ Compatible teams rivals := fun hsame => by
    have heq := hsame [.member 0] 1 9 rfl rfl
    cases heq
  obtain ⟨hassoc, -, -, -, -, hcomm⟩ := merge_lawful hteams hsquads hrivals
  exact ⟨hteams, hsquads, hrivals, hassoc, hcomm hsame, hrival⟩

end Rollout.Layer
