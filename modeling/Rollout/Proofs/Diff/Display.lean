import Mathlib.Data.List.Basic
import Rollout.Diff.FieldPath

/-!
Displayed paths are read in one way only, as long as their names are ordinary. Each segment but the
first displays as a mark, a dot or an opening bracket, and then characters that are no marks. The
dot of the first segment is left out, but whether it is missing can be seen from the first
character.
-/

namespace Rollout.FieldPath

/-- What a segment may begin with in a displayed path. -/
def isMark (c : Char) : Bool := c = '.' || c = '['

/-- A mark, and then no other one. -/
def IsMarked (chars : List Char) : Prop :=
  ∃ mark body, chars = mark :: body ∧ isMark mark = true ∧ ∀ c ∈ body, isMark c = false

/-- An index in decimal digits, or a name without dots and opening brackets. -/
inductive IsOrdinary : String → Prop
  | index {digits : List Char} (hne : digits ≠ []) (hdigits : ∀ c ∈ digits, c.isDigit = true) :
      IsOrdinary (String.ofList ('[' :: (digits ++ [']'])))
  | name {text : String} (hne : text ≠ "") (hdot : '.' ∉ text.toList)
      (hbracket : '[' ∉ text.toList) : IsOrdinary text

/-- The positions of lists are ordinary segments. -/
theorem isOrdinary_index (position : Nat) : IsOrdinary (index position) := by
  have htext : index position = String.ofList ('[' :: (Nat.toDigits 10 position ++ [']'])) := by
    apply String.toList_inj.mp
    simp [index]
  rw [htext]
  exact .index Nat.toDigits_ne_nil fun _ => Nat.isDigit_of_mem_toDigits (by decide) (by decide)

/-! ### Marked parts -/

theorem takeWhile_append_flatten {body : List Char} (hbody : ∀ c ∈ body, isMark c = false)
    {parts : List (List Char)} (hparts : ∀ part ∈ parts, IsMarked part) :
    (body ++ parts.flatten).takeWhile (fun c => !isMark c) = body := by
  have hnone : parts.flatten.takeWhile (fun c => !isMark c) = [] := by
    cases parts with
    | nil => rfl
    | cons part rest =>
        obtain ⟨mark, after, rfl, hmark, -⟩ := hparts part List.mem_cons_self
        simp [hmark]
  rw [List.takeWhile_append_of_pos fun c hc => by simp [hbody c hc], hnone, List.append_nil]

/-- A text falls into marked parts in one way only: the next mark ends a part. -/
theorem flatten_inj {first second : List (List Char)} (hfirst : ∀ part ∈ first, IsMarked part)
    (hsecond : ∀ part ∈ second, IsMarked part) (hflatten : first.flatten = second.flatten) :
    first = second := by
  induction first generalizing second with
  | nil =>
      cases second with
      | nil => rfl
      | cons part rest =>
          obtain ⟨mark, body, rfl, -⟩ := hsecond part List.mem_cons_self
          simp at hflatten
  | cons part rest ih =>
      obtain ⟨mark, body, rfl, -, hbody⟩ := hfirst part List.mem_cons_self
      have hrest : ∀ part ∈ rest, IsMarked part :=
        fun part hmem => hfirst part (List.mem_cons_of_mem _ hmem)
      cases second with
      | nil => simp at hflatten
      | cons other others =>
          obtain ⟨mark', body', rfl, -, hbody'⟩ := hsecond other List.mem_cons_self
          have hothers : ∀ part ∈ others, IsMarked part :=
            fun part hmem => hsecond part (List.mem_cons_of_mem _ hmem)
          obtain ⟨rfl, htail⟩ := List.cons.inj hflatten
          have hsame : body = body' := by
            rw [← takeWhile_append_flatten hbody hrest, ← takeWhile_append_flatten hbody' hothers]
            exact congrArg _ htail
          subst hsame
          rw [ih hrest hothers (List.append_cancel_left htail)]

/-! ### Attached segments -/

theorem toList_attach (segment : String) : (attach segment).toList =
    if segment.toList.head? = some '[' then segment.toList else '.' :: segment.toList := by
  unfold attach
  split
  · rfl
  · rw [String.toList_append]
    rfl

theorem attach_inj {first second : String} (hattach : attach first = attach second) :
    first = second := by
  have hlists := congrArg String.toList hattach
  rw [toList_attach, toList_attach] at hlists
  apply String.toList_inj.mp
  by_cases hfirst : first.toList.head? = some '['
  · by_cases hsecond : second.toList.head? = some '['
    · rwa [if_pos hfirst, if_pos hsecond] at hlists
    · rw [if_pos hfirst, if_neg hsecond] at hlists
      simp [hlists] at hfirst
  · by_cases hsecond : second.toList.head? = some '['
    · rw [if_neg hfirst, if_pos hsecond] at hlists
      simp [← hlists] at hsecond
    · rw [if_neg hfirst, if_neg hsecond] at hlists
      exact (List.cons.inj hlists).2

theorem IsOrdinary.ne_empty {segment : String} (hordinary : IsOrdinary segment) :
    segment.toList ≠ [] := by
  cases hordinary with
  | index hne hdigits => simp
  | name hne => simpa using hne

theorem IsOrdinary.isMarked {segment : String} (hordinary : IsOrdinary segment) :
    IsMarked (attach segment).toList := by
  rw [toList_attach]
  cases hordinary with
  | @index digits hne hdigits =>
      refine ⟨'[', digits ++ [']'], by simp, rfl, fun c hc => ?_⟩
      rcases List.mem_append.mp hc with hdigit | hclosing
      · have hvalue := hdigits c hdigit
        have hdot : c ≠ '.' := by
          rintro rfl
          cases hvalue
        have hbracket : c ≠ '[' := by
          rintro rfl
          cases hvalue
        simp [isMark, hdot, hbracket]
      · rw [List.mem_singleton.mp hclosing]
        rfl
  | name hne hdot hbracket =>
      have hhead : segment.toList.head? ≠ some '[' :=
        fun hhead => hbracket (List.mem_of_head? hhead)
      rw [if_neg hhead]
      refine ⟨'.', segment.toList, rfl, rfl, fun c hc => ?_⟩
      have hdot' : c ≠ '.' := fun heq => hdot (heq ▸ hc)
      have hbracket' : c ≠ '[' := fun heq => hbracket (heq ▸ hc)
      simp [isMark, hdot', hbracket']

/-! ### Displayed paths -/

/-- The segments of a path as they display after another one. -/
def attached (path : FieldPath) : List (List Char) :=
  path.segments.map fun segment => (attach segment).toList

theorem toList_foldl_attach (text : String) (segments : List String) :
    (segments.foldl (fun text segment => text ++ attach segment) text).toList =
      text.toList ++ (attached ⟨segments⟩).flatten := by
  induction segments generalizing text with
  | nil => simp [attached]
  | cons segment rest ih => simp [ih, attached]

/-- A displayed path is its attached segments, up to the dot that a first name goes without. -/
theorem flatten_attached {path : FieldPath}
    (hpath : ∀ segment ∈ path.segments, IsOrdinary segment) :
    path.attached.flatten = if path.display = "" then [] else (attach path.display).toList := by
  obtain ⟨segments⟩ := path
  cases segments with
  | nil => rfl
  | cons first rest =>
      have hne : first.toList ≠ [] := (hpath first List.mem_cons_self).ne_empty
      have hdisplay : (display ⟨first :: rest⟩).toList =
          first.toList ++ (attached ⟨rest⟩).flatten := toList_foldl_attach first rest
      have hshown : display ⟨first :: rest⟩ ≠ "" := by
        intro hempty
        rw [hempty] at hdisplay
        simp [hne] at hdisplay
      rw [if_neg hshown, toList_attach, hdisplay, List.head?_append_of_ne_nil _ hne]
      simp only [attached, List.map_cons, List.flatten_cons, toList_attach]
      split <;> rfl

theorem isMarked_of_mem_attached {path : FieldPath}
    (hpath : ∀ segment ∈ path.segments, IsOrdinary segment) {part : List Char}
    (hpart : part ∈ path.attached) : IsMarked part := by
  obtain ⟨segment, hsegment, rfl⟩ := List.mem_map.mp hpart
  exact (hpath segment hsegment).isMarked

/-- Paths of ordinary segments that display alike are the same. -/
theorem eq_of_display_eq {first second : FieldPath}
    (hfirst : ∀ segment ∈ first.segments, IsOrdinary segment)
    (hsecond : ∀ segment ∈ second.segments, IsOrdinary segment)
    (hdisplay : first.display = second.display) : first = second := by
  have hflatten : first.attached.flatten = second.attached.flatten := by
    rw [flatten_attached hfirst, flatten_attached hsecond, hdisplay]
  have hattached : first.attached = second.attached := by
    apply flatten_inj _ _ hflatten
    · exact fun part hpart => isMarked_of_mem_attached hfirst hpart
    · exact fun part hpart => isMarked_of_mem_attached hsecond hpart
  have hinjective : Function.Injective fun segment => (attach segment).toList := by
    intro segment other heq
    exact attach_inj (String.toList_inj.mp heq)
  obtain ⟨segments⟩ := first
  obtain ⟨others⟩ := second
  congr 1
  exact List.map_injective_iff.mpr hinjective hattached

/-- The key of a toleration, in one of a list of documents. -/
def keyPath : FieldPath := ⟨[index 3, "tolerations", index 0, index 12, "key"]⟩

theorem eq_of_display_eq_keyPath : (∀ segment ∈ keyPath.segments, IsOrdinary segment) ∧
    keyPath.display = "[3].tolerations[0][12].key" ∧
    ∀ path : FieldPath, (∀ segment ∈ path.segments, IsOrdinary segment) →
      path.display = "[3].tolerations[0][12].key" → path = keyPath := by
  have hordinary : ∀ segment ∈ keyPath.segments, IsOrdinary segment := by
    simp only [keyPath, List.forall_mem_cons]
    refine ⟨isOrdinary_index 3, .name ?_ ?_ ?_, isOrdinary_index 0, isOrdinary_index 12,
      .name ?_ ?_ ?_, fun _ hmem => by cases hmem⟩
    all_goals decide +kernel
  have hshown : keyPath.display = "[3].tolerations[0][12].key" := by decide +kernel
  refine ⟨hordinary, hshown, fun path hpath hdisplay => ?_⟩
  exact eq_of_display_eq hpath hordinary (hdisplay.trans hshown.symm)

end Rollout.FieldPath
