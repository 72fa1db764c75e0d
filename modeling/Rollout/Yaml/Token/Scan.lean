import Rollout.Yaml.Token.Scalar
import Rollout.Yaml.Token.Tag

/-!
From the characters of a stream to its tokens. A scalar turns out to be a key only when the colon
after it is read, so the scanner remembers, for each flow collection that is open, where a key may
have begun, and puts the tokens of the key and of its mapping in front of that place.
-/

namespace Rollout.Yaml

/-- A place where a key without a question mark may have begun. -/
structure Candidate where
  /-- How many tokens stand before it. -/
  position : Nat
  line : Nat
  column : Nat
  offset : Nat
  /-- Whether the indentation leaves nothing but a key possible. -/
  required : Bool

structure Scanner where
  cursor : Cursor
  /-- The column of the innermost block collection. -/
  indent : Option Nat
  /-- The columns of the collections around it. -/
  outer : List (Option Nat)
  /-- Whether a key without a question mark may begin here. -/
  keyAllowed : Bool
  /-- The key that may have begun in the innermost flow collection. -/
  candidate : Option Candidate
  /-- The same for the flow collections around it, and the block level. -/
  outerCandidates : List (Option Candidate)
  /-- The tokens so far, last first. -/
  tokens : List Token
  /-- How many tokens there are. -/
  count : Nat

namespace Scanner

def start (text : List Char) : Scanner where
  cursor := Cursor.start text
  indent := none
  outer := []
  keyAllowed := true
  candidate := none
  outerCandidates := []
  tokens := []
  count := 0

def inFlow (s : Scanner) : Bool := !s.outerCandidates.isEmpty

def emit (s : Scanner) (token : Token) : Scanner :=
  { s with tokens := token :: s.tokens, count := s.count + 1 }

/-- Puts a token in front of all tokens but the first `position`. -/
def emitAt (s : Scanner) (position : Nat) (token : Token) : Scanner :=
  let after := s.count - position
  { s with
    tokens := s.tokens.take after ++ token :: s.tokens.drop after
    count := s.count + 1 }

def skip (s : Scanner) (count : Nat) : Scanner := { s with cursor := s.cursor.skip count }

/-! ### Indentation -/

/-- Whether an indentation lies to the left of a column; none lies to the left of all. -/
def isLeftOf (indent : Option Nat) (column : Nat) : Bool :=
  match indent with
  | some own => decide (own < column)
  | none => true

/-- Opens a block collection at a column, unless one is open there. -/
def rollIndent (s : Scanner) (column position : Nat) (token : Token) : Scanner :=
  if s.inFlow || !isLeftOf s.indent column then s
  else
    { s with indent := some column, outer := s.indent :: s.outer }.emitAt position token

/-- Leaves block collections, innermost first, while `isOpen` holds of their column, and counts
them. -/
def leaveWhile (isOpen : Nat → Bool) :
    Option Nat → List (Option Nat) → Option Nat × List (Option Nat) × Nat
  | some column, next :: outer =>
    if isOpen column then
      let (indent, outer, left) := leaveWhile isOpen next outer
      (indent, outer, left + 1)
    else (some column, next :: outer, 0)
  | indent, outer => (indent, outer, 0)

/-- Closes the block collections of the columns for which `isOpen` holds. -/
def unrollIndent (s : Scanner) (isOpen : Nat → Bool) : Scanner :=
  if s.inFlow then s
  else
    let (indent, outer, left) := leaveWhile isOpen s.indent s.outer
    { s with
      indent, outer
      tokens := List.replicate left .blockEnd ++ s.tokens
      count := s.count + left }

/-! ### Keys -/

/-- A key ends on its line and within 1024 bytes. -/
def isFresh (cursor : Cursor) (key : Candidate) : Bool :=
  decide (key.line = cursor.line ∧ cursor.offset ≤ key.offset + 1024)

/-- Gives up the key that may have begun. -/
def dropCandidate (s : Scanner) : Option Scanner :=
  if s.candidate.any (·.required) then none else some { s with candidate := none }

/-- Remembers that a key may begin here. -/
def saveCandidate (s : Scanner) : Option Scanner :=
  if s.keyAllowed then do
    let s ← s.dropCandidate
    return { s with candidate := some {
      position := s.count
      line := s.cursor.line
      column := s.cursor.column
      offset := s.cursor.offset
      required := !s.inFlow && s.indent == some s.cursor.column } }
  else some s

/-! ### White space -/

/-- Skips blanks, comments and line breaks, and a byte order mark at the start of a line. Where a
key may begin outside of flow collections, a tab is no blank; a new line lets a key begin. -/
def skipGap : Nat → Scanner → Scanner
  | 0, s => s
  | fuel + 1, s =>
    let isSkipped (c : Char) : Bool := c == ' ' || ((s.inFlow || !s.keyAllowed) && c == '\t')
    let cursor := s.cursor.skipMark.skipWhile isSkipped
    let cursor :=
      if cursor.rest.head? = some '#' then cursor.skipWhile (fun c => !isBreak c) else cursor
    match cursor.rest with
    | c :: _ =>
      if isBreak c then
        skipGap fuel { s with cursor := cursor.skipBreak, keyAllowed := s.keyAllowed || !s.inFlow }
      else { s with cursor }
    | [] => { s with cursor }

/-! ### Tokens -/

def fetchDirective (s : Scanner) : Option Scanner := do
  let s ← (s.unrollIndent fun _ => true).dropCandidate
  let (token, rest) ← readDirective (s.cursor.rest.drop 1)
  let cursor ← skipLineEnd (s.cursor.upTo rest)
  return { s with keyAllowed := false, cursor }.emit token

def fetchDocumentMarker (s : Scanner) (token : Token) : Option Scanner := do
  let s ← (s.unrollIndent fun _ => true).dropCandidate
  return ({ s with keyAllowed := false }.skip 3).emit token

def fetchFlowStart (s : Scanner) (token : Token) : Option Scanner := do
  let s ← s.saveCandidate
  let inner := { s with
    keyAllowed := true
    outerCandidates := s.candidate :: s.outerCandidates
    candidate := none }
  return (inner.skip 1).emit token

def fetchFlowEnd (s : Scanner) (token : Token) : Option Scanner := do
  let s ← s.dropCandidate
  let s := match s.outerCandidates with
    | candidate :: outerCandidates => { s with candidate, outerCandidates }
    | [] => s
  return ({ s with keyAllowed := false }.skip 1).emit token

def fetchFlowEntry (s : Scanner) : Option Scanner := do
  let s ← s.dropCandidate
  return ({ s with keyAllowed := true }.skip 1).emit .flowEntry

def fetchBlockEntry (s : Scanner) : Option Scanner := do
  if !s.inFlow && !s.keyAllowed then none
  else
    let s ← (s.rollIndent s.cursor.column s.count .blockSequenceStart).dropCandidate
    return ({ s with keyAllowed := true }.skip 1).emit .blockEntry

def fetchKey (s : Scanner) : Option Scanner := do
  if !s.inFlow && !s.keyAllowed then none
  else
    let s ← (s.rollIndent s.cursor.column s.count .blockMappingStart).dropCandidate
    return ({ s with keyAllowed := !s.inFlow }.skip 1).emit .key

/-- The colon of an entry. It makes a key of what may have begun one, if that is still possible. -/
def fetchValue (s : Scanner) : Option Scanner := do
  match s.candidate.filter (isFresh s.cursor) with
  | some key =>
    let s := (s.emitAt key.position .key).rollIndent key.column key.position .blockMappingStart
    return ({ s with candidate := none, keyAllowed := false }.skip 1).emit .value
  | none =>
    let s ← s.dropCandidate
    if !s.inFlow && !s.keyAllowed then none
    else
      let s := s.rollIndent s.cursor.column s.count .blockMappingStart
      return ({ s with keyAllowed := !s.inFlow }.skip 1).emit .value

/-- An anchor or an alias: a name of word characters with a blank or an indicator after it. -/
def fetchAnchor (s : Scanner) (token : String → Token) : Option Scanner := do
  let s ← s.saveCandidate
  let text := s.cursor.rest.drop 1
  let name := text.takeWhile isWord
  let rest := text.dropWhile isWord
  let ends := endsWord rest ||
    (rest.head?.map fun c => "?:,]\x7d%@\x60".toList.contains c).getD false
  if name.isEmpty || !ends then none
  else
    return ({ s with keyAllowed := false }.skip (1 + name.length)).emit
      (token (String.ofList name))

def fetchTag (s : Scanner) : Option Scanner := do
  let s ← s.saveCandidate
  let (name, rest) ← readTag s.cursor.rest
  if endsWord rest || (s.inFlow && rest.head? == some ',') then
    return { s with keyAllowed := false, cursor := s.cursor.upTo rest }.emit (.tag name)
  else none

def fetchBlockScalar (s : Scanner) (style : Style) : Option Scanner := do
  let s ← s.dropCandidate
  let (text, cursor) ← readBlock (style == .folded) s.indent (s.cursor.skip 1)
  return { s with keyAllowed := true, cursor }.emit (.scalar style (String.ofList text))

def fetchQuoted (s : Scanner) (style : Style) : Option Scanner := do
  let s ← s.saveCandidate
  let opened := s.cursor.skip 1
  let (text, cursor) ←
    readQuoted (style == .singleQuoted) (2 * opened.left + 2) [] opened
  return { s with keyAllowed := false, cursor }.emit (.scalar style (String.ofList text))

def fetchPlain (s : Scanner) : Option Scanner := do
  let s ← s.saveCandidate
  let margin := match s.indent with
    | some column => column + 1
    | none => 0
  let (text, broken, cursor) ←
    readPlain s.inFlow margin (s.cursor.left + 1) [] .none s.cursor
  return { s with keyAllowed := broken, cursor }.emit (.scalar .plain (String.ofList text))

/-- Whether a plain scalar may begin with `c` before `rest`. -/
def startsPlain (inFlow : Bool) (c : Char) (rest : List Char) : Bool :=
  if c == '-' then !(rest.head?.map isBlank).getD false
  else if c == '?' || c == ':' then !inFlow && !endsWord rest
  else !(isBlank c || isBreak c || ",[]\x7b\x7d#&*!|>'\"%@\x60".toList.contains c)

/-- The token that begins with `c` before `rest`. -/
def fetchToken (s : Scanner) (c : Char) (rest : List Char) : Option Scanner :=
  let indicates := s.inFlow || endsWord rest
  if s.cursor.column == 0 && c == '%' then s.fetchDirective
  else if s.cursor.atMarker '-' then s.fetchDocumentMarker .documentStart
  else if s.cursor.atMarker '.' then s.fetchDocumentMarker .documentEnd
  else if c == '[' then s.fetchFlowStart .flowSequenceStart
  else if c == '\x7b' then s.fetchFlowStart .flowMappingStart
  else if c == ']' then s.fetchFlowEnd .flowSequenceEnd
  else if c == '\x7d' then s.fetchFlowEnd .flowMappingEnd
  else if c == ',' then s.fetchFlowEntry
  else if c == '-' && endsWord rest then s.fetchBlockEntry
  else if c == '?' && indicates then s.fetchKey
  else if c == ':' && indicates then s.fetchValue
  else if c == '*' then s.fetchAnchor .alias
  else if c == '&' then s.fetchAnchor .anchor
  else if c == '!' then s.fetchTag
  else if c == '|' && !s.inFlow then s.fetchBlockScalar .literal
  else if c == '>' && !s.inFlow then s.fetchBlockScalar .folded
  else if c == '\x27' then s.fetchQuoted .singleQuoted
  else if c == '"' then s.fetchQuoted .doubleQuoted
  else if startsPlain s.inFlow c rest then s.fetchPlain
  else none

/-- Scans to the end of the stream. -/
def run : Nat → Scanner → Option (List Token)
  | 0, _ => none
  | fuel + 1, s => do
    let s := skipGap (s.cursor.left + 1) s
    match s.cursor.rest with
    | [] =>
      let s ← (s.unrollIndent fun _ => true).dropCandidate
      return s.tokens.reverse
    | c :: rest =>
      let s ← (s.unrollIndent fun column => decide (s.cursor.column < column)).fetchToken c rest
      run fuel s

end Scanner

/-- The tokens of a stream, none when a token is malformed or a character is not allowed. -/
def Token.scan? (text : List Char) : Option (List Token) :=
  if !text.all isAllowed then none
  else (Scanner.start text).run (text.length + 2)

end Rollout.Yaml
