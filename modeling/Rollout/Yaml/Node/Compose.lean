import Rollout.Entries
import Rollout.Yaml.Node

/-!
From the tokens of a stream to its only document. Block and flow collections follow the grammar of
YAML 1.1; an entry without a node is an empty plain scalar.

An anchor gets its number where its node begins: the count of distinct anchor names so far. A name
that is used again therefore shares its new number with the next new name, and a reference leads to
the node that began last under its number.
-/

namespace Rollout.Yaml

/-- The state of composing: the tokens left, the tag handles and the anchors so far. -/
structure Composer where
  tokens : List Token
  /-- Declared tag handles with what they stand for. -/
  handles : List (String × String)
  /-- The number of each anchor name. -/
  names : List (String × Nat)
  /-- How many anchored nodes have begun. -/
  begun : Nat
  /-- For a number, the anchored node that began last under it comes first. -/
  slots : List (Nat × Nat)
  /-- The anchored nodes that are complete. -/
  nodes : List (Nat × Node)

namespace Composer

def start (tokens : List Token) : Composer := ⟨tokens, [], [], 0, [], []⟩

def advance (c : Composer) : Composer := { c with tokens := c.tokens.drop 1 }

/-- Whether the next token is one of a list; the end of the tokens is none. -/
def atOneOf (c : Composer) (options : List Token) : Bool :=
  match c.tokens with
  | token :: _ => options.contains token
  | [] => false

/-- Numbers an anchor where its node begins. -/
def beginAnchor (c : Composer) (name : String) : Composer :=
  let number := c.names.length
  { c with
    names := (name, number) :: Entries.erase name c.names
    begun := c.begun + 1
    slots := (number, c.begun) :: c.slots }

/-- Records a node under the anchor that began as the `serial`-th one. -/
def endAnchor (c : Composer) (serial : Option Nat) (node : Node) : Composer :=
  match serial with
  | some serial => { c with nodes := (serial, node) :: c.nodes }
  | none => c

/-- The node of each anchor number. -/
def anchors (c : Composer) : List (Nat × Node) :=
  c.slots.filterMap fun slot => (Entries.find? slot.2 c.nodes).map fun node => (slot.1, node)

/-- The full tag of a tag as written. -/
def tag? (c : Composer) (name : TagName) : Option String :=
  if name.handle.isEmpty then some name.suffix
  else
    let known := c.handles ++ [("!", "!"), ("!!", "tag:yaml.org,2002:")]
    (Entries.find? name.handle known).map fun expansion => expansion ++ name.suffix

/-- An anchor and a tag, in either order, each at most once. -/
def properties (c : Composer) : Option String × Option TagName × Composer :=
  match c.tokens with
  | .anchor name :: .tag tag :: rest => (some name, some tag, { c with tokens := rest })
  | .tag tag :: .anchor name :: rest => (some name, some tag, { c with tokens := rest })
  | .anchor name :: rest => (some name, none, { c with tokens := rest })
  | .tag tag :: rest => (none, some tag, { c with tokens := rest })
  | _ => (none, none, c)

mutual

/-- One node. Block collections may stand only in block context, and a sequence without
indentation only as the value of a block mapping. -/
def node? (block indentless : Bool) : Nat → Composer → Option (Node × Composer)
  | 0, _ => none
  | fuel + 1, c =>
    match c.tokens with
    | .alias name :: rest => do
      let number ← Entries.find? name c.names
      return (.alias number, { c with tokens := rest })
    | _ => do
      let (anchor, tagName, c) := c.properties
      let tag ← match tagName with
        | some name => (c.tag? name).map some
        | none => some none
      let serial := anchor.map fun _ => c.begun
      let c := match anchor with
        | some name => c.beginAnchor name
        | none => c
      let (node, c) ← content? block indentless tag (anchor.isSome || tag.isSome) fuel c
      return (node, c.endAnchor serial node)

/-- The content of a node after its properties. With properties it may be missing. -/
def content? (block indentless : Bool) (tag : Option String) (marked : Bool) :
    Nat → Composer → Option (Node × Composer)
  | 0, _ => none
  | fuel + 1, c =>
    match c.tokens with
    | .scalar style text :: _ => some (.scalar style tag text, c.advance)
    | .flowSequenceStart :: _ => do
      let (items, c) ← flowItems? true fuel c.advance
      return (.sequence items, c)
    | .flowMappingStart :: _ => do
      let (entries, c) ← flowEntries? true fuel c.advance
      return (.mapping entries, c)
    | .blockEntry :: _ =>
      if indentless then do
        let (items, c) ← indentlessItems? fuel c
        return (.sequence items, c)
      else if marked then some (.scalar .plain tag "", c) else none
    | .blockSequenceStart :: _ =>
      if block then do
        let (items, c) ← blockItems? fuel c.advance
        return (.sequence items, c)
      else if marked then some (.scalar .plain tag "", c) else none
    | .blockMappingStart :: _ =>
      if block then do
        let (entries, c) ← blockEntries? fuel c.advance
        return (.mapping entries, c)
      else if marked then some (.scalar .plain tag "", c) else none
    | _ => if marked then some (.scalar .plain tag "", c) else none

/-- A node, or an empty one before a token that ends the place of a node. -/
def nodeUnless? (ends : List Token) (block indentless : Bool) :
    Nat → Composer → Option (Node × Composer)
  | 0, _ => none
  | fuel + 1, c => if c.atOneOf ends then some (Node.empty, c) else node? block indentless fuel c

/-- The entries of a block sequence up to its end. -/
def blockItems? : Nat → Composer → Option (List Node × Composer)
  | 0, _ => none
  | fuel + 1, c =>
    match c.tokens with
    | .blockEntry :: _ => do
      let (item, c) ← nodeUnless? [.blockEntry, .blockEnd] true false fuel c.advance
      let (others, c) ← blockItems? fuel c
      return (item :: others, c)
    | .blockEnd :: _ => some ([], c.advance)
    | _ => none

/-- The entries of a sequence without indentation; no token ends it. -/
def indentlessItems? : Nat → Composer → Option (List Node × Composer)
  | 0, _ => none
  | fuel + 1, c =>
    match c.tokens with
    | .blockEntry :: _ => do
      let (item, c) ← nodeUnless? [.blockEntry, .key, .value, .blockEnd] true false fuel c.advance
      let (others, c) ← indentlessItems? fuel c
      return (item :: others, c)
    | _ => some ([], c)

/-- The entries of a block mapping up to its end. -/
def blockEntries? : Nat → Composer → Option (List (Node × Node) × Composer)
  | 0, _ => none
  | fuel + 1, c =>
    match c.tokens with
    | .key :: _ => do
      let (key, c) ← nodeUnless? [.key, .value, .blockEnd] true true fuel c.advance
      let (value, c) ← blockValue? fuel c
      let (others, c) ← blockEntries? fuel c
      return ((key, value) :: others, c)
    | .value :: _ => none
    | .blockEnd :: _ => some ([], c.advance)
    | _ => none

/-- The value of a block mapping entry, empty without a value token. -/
def blockValue? : Nat → Composer → Option (Node × Composer)
  | 0, _ => none
  | fuel + 1, c =>
    match c.tokens with
    | .value :: _ => nodeUnless? [.key, .value, .blockEnd] true true fuel c.advance
    | _ => some (Node.empty, c)

/-- The items of a flow sequence up to its bracket. A key in it makes an item that is a mapping of
one entry. -/
def flowItems? (first : Bool) : Nat → Composer → Option (List Node × Composer)
  | 0, _ => none
  | fuel + 1, c =>
    match c.tokens with
    | .flowSequenceEnd :: _ => some ([], c.advance)
    | _ =>
      if !first && !c.atOneOf [.flowEntry] then none
      else
        let c := if first then c else c.advance
        match c.tokens with
        | .flowSequenceEnd :: _ => some ([], c.advance)
        | .key :: _ => do
          let (key, c) ← flowItemKey? fuel c.advance
          let (value, c) ← flowValue? .flowSequenceEnd fuel c
          let (others, c) ← flowItems? false fuel c
          return (.mapping [(key, value)] :: others, c)
        | _ => do
          let (item, c) ← node? false false fuel c
          let (others, c) ← flowItems? false fuel c
          return (item :: others, c)

/-- The key of a mapping of one entry. An empty key takes the token after it with it. -/
def flowItemKey? : Nat → Composer → Option (Node × Composer)
  | 0, _ => none
  | fuel + 1, c =>
    if c.atOneOf [.value, .flowEntry, .flowSequenceEnd] then some (Node.empty, c.advance)
    else node? false false fuel c

/-- The value of an entry in a flow collection, empty without a value token. -/
def flowValue? (closing : Token) : Nat → Composer → Option (Node × Composer)
  | 0, _ => none
  | fuel + 1, c =>
    match c.tokens with
    | .value :: _ => nodeUnless? [.flowEntry, closing] false false fuel c.advance
    | _ => some (Node.empty, c)

/-- The entries of a flow mapping up to its brace. A node without a key token is a key without a
value. -/
def flowEntries? (first : Bool) : Nat → Composer → Option (List (Node × Node) × Composer)
  | 0, _ => none
  | fuel + 1, c =>
    match c.tokens with
    | .flowMappingEnd :: _ => some ([], c.advance)
    | _ =>
      if !first && !c.atOneOf [.flowEntry] then none
      else
        let c := if first then c else c.advance
        match c.tokens with
        | .flowMappingEnd :: _ => some ([], c.advance)
        | .key :: _ => do
          let (key, c) ←
            nodeUnless? [.value, .flowEntry, .flowMappingEnd] false false fuel c.advance
          let (value, c) ← flowValue? .flowMappingEnd fuel c
          let (others, c) ← flowEntries? false fuel c
          return ((key, value) :: others, c)
        | _ => do
          let (key, c) ← node? false false fuel c
          let (others, c) ← flowEntries? false fuel c
          return ((key, Node.empty) :: others, c)

end

/-- The directives before a document: at most one version, which has to be 1.1 or 1.2, and tag
handles, each declared once. -/
def directives? (versioned : Bool) : List Token → List (String × String) →
    Option (List (String × String) × List Token)
  | .version major minor :: rest, handles =>
    if versioned || major ≠ 1 || (minor ≠ 1 && minor ≠ 2) then none
    else directives? true rest handles
  | .tagHandle handle expansion :: rest, handles =>
    if (Entries.find? handle handles).isSome then none
    else directives? versioned rest ((handle, expansion) :: handles)
  | tokens, handles => some (handles, tokens)

/-- The root of a document after its start marker, empty before another document or the end. -/
def root? (fuel : Nat) (c : Composer) : Option (Node × Composer) :=
  match c.tokens with
  | [] | .documentStart :: _ | .documentEnd :: _ | .version .. :: _ | .tagHandle .. :: _ =>
    some (Node.empty, c)
  | _ => node? true false fuel c

/-- The first document with its directives and start marker, if it has them. -/
def document? (fuel : Nat) (tokens : List Token) : Option (Node × Composer) := do
  let (handles, rest) ← directives? false tokens []
  match rest with
  | .documentStart :: rest => root? fuel { start rest with handles := handles }
  | _ =>
    if rest.length = tokens.length then node? true false fuel (start rest) else none

end Composer

/-- The document of a stream that has at most one. -/
def Document.ofTokens? (tokens : List Token) : Option Document :=
  if tokens.isEmpty then some Document.empty
  else do
    let (root, c) ← Composer.document? (4 * tokens.length + 4) tokens
    if c.tokens.all (· == .documentEnd) then some ⟨root, c.anchors⟩ else none

end Rollout.Yaml
