import Rollout.Proofs.Yaml.Outline
import Rollout.Yaml.Reading

/-!
The node tree of a printed document. Composing takes at most two steps for each token, so the fuel
that goes with the number of tokens is enough.
-/

namespace Rollout.Yaml

namespace Outline

mutual

def node : Outline → Node
  | .number n => .scalar .plain none (toString n)
  | .text t => .scalar (Printer.form t).style none t
  | .section inner => .mapping (entryNodes inner)

def entryNodes : List (String × Outline) → List (Node × Node)
  | [] => []
  | (key, v) :: rest => (.scalar .plain none key, v.node) :: entryNodes rest

end

/-- A value begins with a token that no place of a node ends with. -/
theorem tokens_cons (v : Outline) :
    ∃ token rest, v.tokens = token :: rest ∧
      ([.key, .value, .blockEnd] : List Token).contains token = false := by
  cases v with
  | number n => exact ⟨_, _, rfl, rfl⟩
  | text t => exact ⟨_, _, rfl, rfl⟩
  | «section» inner => exact ⟨_, _, rfl, rfl⟩

end Outline

namespace Composer

/-- Composing goes on at other tokens. -/
def on (c : Composer) (tokens : List Token) : Composer := { c with tokens }

@[simp]
theorem on_tokens (c : Composer) (tokens : List Token) : (c.on tokens).tokens = tokens := rfl

@[simp] theorem on_advance (c : Composer) (token : Token) (rest : List Token) :
    (c.on (token :: rest)).advance = c.on rest := rfl

section Nodes

variable {c : Composer} {rest : List Token} {indentless : Bool} {fuel : Nat}

theorem node?_scalar (style : Style) (text : String) (hfuel : 2 ≤ fuel) :
    node? true indentless fuel (c.on (.scalar style text :: rest)) =
      some (.scalar style none text, c.on rest) := by
  obtain ⟨fuel, rfl⟩ := Nat.exists_eq_add_of_le' hfuel
  simp [node?, properties, content?, endAnchor]

theorem node?_section {entries : List (Node × Node)} {tokens : List Token}
    (hentries : blockEntries? fuel (c.on tokens) = some (entries, c.on rest)) :
    node? true indentless (fuel + 2) (c.on (.blockMappingStart :: tokens)) =
      some (.mapping entries, c.on rest) := by
  simp [node?, properties, content?, endAnchor, hentries]

/-- Where a node is expected, one that is there is taken. -/
theorem nodeUnless?_of_node? {ends : List Token} {token : Token} {node : Node} {next : Composer}
    (hgoes : ends.contains token = false)
    (hnode : node? true indentless fuel (c.on (token :: rest)) = some (node, next)) :
    nodeUnless? ends true indentless (fuel + 1) (c.on (token :: rest)) = some (node, next) := by
  simp only [nodeUnless?, atOneOf, on_tokens, hgoes]
  exact hnode

/-- An entry, given its value and the entries after it. -/
theorem blockEntries?_cons {key : String} {value : Node} {others : List (Node × Node)}
    {token : Token} {tokens later : List Token}
    (hgoes : ([.key, .value, .blockEnd] : List Token).contains token = false)
    (hvalue : node? true true (fuel + 1) (c.on (token :: tokens)) = some (value, c.on later))
    (hothers : blockEntries? (fuel + 3) (c.on later) = some (others, c.on rest)) :
    blockEntries? (fuel + 4) (c.on (.key :: .scalar .plain key :: .value :: token :: tokens)) =
      some ((.scalar .plain none key, value) :: others, c.on rest) := by
  have hkey : nodeUnless? [.key, .value, .blockEnd] true true (fuel + 3)
      (c.on (.scalar .plain key :: .value :: token :: tokens)) =
        some (.scalar .plain none key, c.on (.value :: token :: tokens)) :=
    nodeUnless?_of_node? rfl (node?_scalar .plain key (Nat.le_add_left 2 fuel))
  have hentry : blockValue? (fuel + 3) (c.on (.value :: token :: tokens)) =
      some (value, c.on later) := by
    rw [blockValue?]
    exact nodeUnless?_of_node? hgoes hvalue
  rw [blockEntries?]
  simp [hkey, hentry, hothers]

end Nodes

section Outlines

variable {c : Composer}

mutual

/-- The tokens of a value compose to its node, whatever follows. -/
theorem node?_tokens {rest : List Token} {indentless : Bool} {fuel : Nat} (v : Outline)
    (hfuel : 2 * v.tokens.length ≤ fuel) :
    node? true indentless fuel (c.on (v.tokens ++ rest)) = some (v.node, c.on rest) := by
  cases v with
  | number n => exact node?_scalar .plain (toString n) hfuel
  | text t => exact node?_scalar (Printer.form t).style t hfuel
  | «section» inner =>
      simp only [Outline.tokens, List.length_cons, List.length_append, List.length_nil] at hfuel
      obtain ⟨fuel, rfl⟩ := Nat.exists_eq_add_of_le' (show 2 ≤ fuel by omega)
      have hentries := @blockEntries?_tokens rest fuel inner (by omega)
      have hsection := @node?_section c rest indentless fuel _ _ hentries
      simpa [Outline.tokens, Outline.node] using hsection

theorem blockEntries?_tokens {rest : List Token} {fuel : Nat} (entries : List (String × Outline))
    (hfuel : 2 * (Outline.entryTokens entries).length + 1 ≤ fuel) :
    blockEntries? fuel (c.on (Outline.entryTokens entries ++ .blockEnd :: rest)) =
      some (Outline.entryNodes entries, c.on rest) := by
  cases entries with
  | nil =>
      obtain ⟨fuel, rfl⟩ := Nat.exists_eq_add_of_le' (show 1 ≤ fuel by omega)
      simp [blockEntries?, Outline.entryTokens, Outline.entryNodes]
  | cons entry others =>
      obtain ⟨key, v⟩ := entry
      simp only [Outline.entryTokens, List.length_cons, List.length_append] at hfuel
      obtain ⟨fuel, rfl⟩ := Nat.exists_eq_add_of_le' (show 4 ≤ fuel by omega)
      have hvalue :=
        @node?_tokens (Outline.entryTokens others ++ .blockEnd :: rest) true (fuel + 1) v (by omega)
      have hothers := @blockEntries?_tokens rest (fuel + 3) others (by omega)
      obtain ⟨token, tokens, hv, hgoes⟩ := v.tokens_cons
      rw [hv] at hvalue
      have hentry := @blockEntries?_cons c rest fuel key _ _ token _ _ hgoes hvalue hothers
      simpa [Outline.entryTokens, Outline.entryNodes, hv] using hentry

end

end Outlines

end Composer

/-! ### Documents -/

/-- The tokens of a document compose to its node tree, without anchors. -/
theorem Document.ofTokens?_tokens (sections : List (String × Outline)) :
    ofTokens? (Outline.section sections).tokens = some ⟨(Outline.section sections).node, []⟩ := by
  obtain ⟨tokens, htokens⟩ : ∃ tokens,
      (Outline.section sections).tokens = .blockMappingStart :: tokens := ⟨_, rfl⟩
  have hnode := @Composer.node?_tokens (Composer.start []) [] false (4 * (tokens.length + 1) + 4)
    (.section sections) (by simp only [htokens, List.length_cons]; omega)
  rw [List.append_nil, htokens] at hnode
  have hstart : Composer.start (.blockMappingStart :: tokens) =
      (Composer.start []).on (.blockMappingStart :: tokens) := rfl
  rw [htokens]
  simp [ofTokens?, Composer.document?, Composer.directives?, hstart, hnode]
  rfl

theorem Document.ofText?_render {sections : List (String × Outline)} (hne : sections ≠ [])
    (hwell : Outline.areWellFormed sections) :
    ofText? (render sections) = some ⟨(Outline.section sections).node, []⟩ := by
  rw [ofText?, render, String.toList_ofList, Token.scan?_entries hne hwell]
  exact ofTokens?_tokens sections

theorem Document.ofBytes?_toUTF8 (text : String) : ofBytes? text.toUTF8 = ofText? text := by
  have hvalid : text.toUTF8.IsValidUTF8 := text.isValidUTF8
  have htext : String.fromUTF8? text.toUTF8 = some text := by
    rw [String.fromUTF8?, dif_pos hvalid]
    rfl
  rw [ofBytes?, htext]
  rfl

end Rollout.Yaml
