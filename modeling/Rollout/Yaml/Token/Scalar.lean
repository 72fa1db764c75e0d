import Rollout.Text.Encoding
import Rollout.Yaml.Char

/-!
The text of scalars, read from the character that opens them. What stands between two pieces of a
plain or quoted scalar is a `Gap`: blanks on one line are kept, a single line break becomes a
space, and further breaks are kept in its place. Texts that are still being read are kept with
their last character first.
-/

namespace Rollout.Yaml

/-- Adds a piece to a text that is kept with its last character first. -/
def push (text piece : List Char) : List Char := piece.reverse ++ text

/-- What separates two pieces of a scalar. -/
structure Gap where
  /-- Blanks before the first break, last first. -/
  blanks : List Char
  /-- Whether a break was seen. -/
  broken : Bool
  /-- The text of the first break, empty when it was escaped. -/
  first : List Char
  /-- The texts of the further breaks, last first. -/
  later : List Char

namespace Gap

def none : Gap := ⟨[], false, [], []⟩

/-- A gap that an escaped line break opens. -/
def escaped : Gap := ⟨[], true, [], []⟩

/-- The text that stands for the gap between two pieces. -/
def fold (gap : Gap) : List Char :=
  if gap.broken then
    if gap.first = ['\n'] then (if gap.later.isEmpty then [' '] else gap.later.reverse)
    else gap.first ++ gap.later.reverse
  else gap.blanks.reverse

/-- The gap with one more blank. -/
def blank (gap : Gap) (c : Char) : Gap :=
  if gap.broken then gap else { gap with blanks := c :: gap.blanks }

/-- The gap with one more break. -/
def lineBreak (gap : Gap) (text : List Char) : Gap :=
  if gap.broken then { gap with later := push gap.later text }
  else ⟨[], true, text, []⟩

end Gap

/-- The gap that starts here. A tab among the first `margin` columns of a later line is refused. -/
def readGap (margin : Nat) : Nat → Gap → Cursor → Option (Gap × Cursor)
  | 0, _, _ => none
  | fuel + 1, gap, cursor =>
    match cursor.rest with
    | c :: _ =>
      if isBlank c then
        if gap.broken && decide (cursor.column < margin) && c == '\t' then none
        else readGap margin fuel (gap.blank c) (cursor.skip 1)
      else if isBreak c then
        readGap margin fuel (gap.lineBreak cursor.breakText) cursor.skipBreak
      else some (gap, cursor)
    | [] => some (gap, cursor)

/-! ### Plain scalars -/

/-- Whether a plain scalar ends before these characters. -/
def endsPlain (inFlow : Bool) : List Char → Bool
  | [] => true
  | c :: rest =>
    isBlank c || isBreak c || (c == ':' && endsWord rest) || (inFlow && isFlowIndicator c)

/-- Inside flow collections a colon may not touch a flow indicator or a question mark. -/
def isStrayColon (inFlow : Bool) : List Char → Bool
  | ':' :: c :: _ => inFlow && (isFlowIndicator c || c == '?')
  | _ => false

/-- One piece of a plain scalar, up to a blank, a break or an indicator that ends it. -/
def readPiece (inFlow : Bool) (piece : List Char) : List Char → Option (List Char × List Char)
  | [] => some (piece.reverse, [])
  | c :: rest =>
    if isStrayColon inFlow (c :: rest) then none
    else if endsPlain inFlow (c :: rest) then some (piece.reverse, c :: rest)
    else readPiece inFlow (c :: piece) rest

/-- The pieces of a plain scalar. Outside of flow collections a line has to be indented by at least
`margin` columns to belong to it. The flag tells whether a line break follows the last piece. -/
def readPlain (inFlow : Bool) (margin : Nat) :
    Nat → List Char → Gap → Cursor → Option (List Char × Bool × Cursor)
  | 0, _, _, _ => none
  | fuel + 1, text, gap, cursor =>
    if cursor.atDocumentMarker || cursor.rest.head? == some '#' then
      some (text.reverse, gap.broken, cursor)
    else do
      let (piece, rest) ← readPiece inFlow [] cursor.rest
      let text := if piece.isEmpty then text else push (push text gap.fold) piece
      let pending := if piece.isEmpty then gap else .none
      let cursor := cursor.skip piece.length
      if endsWord rest && !rest.isEmpty then
        let (next, after) ← readGap margin (cursor.left + 1) .none cursor
        if !inFlow && decide (after.column < margin) then some (text.reverse, next.broken, after)
        else readPlain inFlow margin fuel text next after
      else some (text.reverse, pending.broken, cursor)

/-! ### Quoted scalars -/

/-- The characters written by a backslash and one letter. -/
def letterEscape? (c : Char) : Option Char :=
  match c with
  | '0' => some '\x00'
  | 'a' => some '\x07'
  | 'b' => some '\x08'
  | 't' | '\t' => some '\t'
  | 'n' => some '\n'
  | 'v' => some '\x0b'
  | 'f' => some '\x0c'
  | 'r' => some '\r'
  | 'e' => some '\x1b'
  | ' ' | '"' | '/' | '\\' => some c
  | 'N' => some '\u0085'
  | '_' => some '\u00a0'
  | 'L' => some '\u2028'
  | 'P' => some '\u2029'
  | _ => none

/-- How many hexadecimal digits follow an escape letter. -/
def escapeDigits? (c : Char) : Option Nat :=
  match c with
  | 'x' => some 2
  | 'u' => some 4
  | 'U' => some 8
  | _ => none

/-- The number of exactly `count` hexadecimal digits. -/
def readHex : Nat → Nat → List Char → Option Nat
  | 0, value, _ => some value
  | count + 1, value, c :: rest => do readHex count (value * 16 + (← Text.Hex.value? c)) rest
  | _ + 1, _, [] => none

/-- The character of an escape, after its backslash, and how many characters the escape takes. -/
def readEscape : List Char → Option (Char × Nat)
  | [] => none
  | c :: rest =>
    match letterEscape? c with
    | some written => some (written, 1)
    | none => do
      let count ← escapeDigits? c
      let code ← readHex count 0 rest
      if code < 0xD800 ∨ (0xDFFF < code ∧ code < 0x110000) then some (Char.ofNat code, count + 1)
      else none

/-- How a piece of a quoted scalar ended. -/
inductive PieceEnd where
  | quote
  | gap
  | escapedBreak
  | text

/-- One piece of a quoted scalar, after what was read of it already: its characters, how it ended,
and how many characters it takes. A quote and an escaped break are left to be read. -/
def readQuotedPiece (single : Bool) :
    Nat → List Char → Nat → List Char → Option (List Char × PieceEnd × Nat)
  | 0, _, _, _ => none
  | fuel + 1, piece, taken, text =>
    match text with
    | [] => some (piece.reverse, .text, taken)
    | c :: rest =>
      if isBlank c || isBreak c then some (piece.reverse, .gap, taken)
      else if single then
        if c = '\x27' then
          if rest.head? = some '\x27' then
            readQuotedPiece single fuel ('\x27' :: piece) (taken + 2) (rest.drop 1)
          else some (piece.reverse, .quote, taken)
        else readQuotedPiece single fuel (c :: piece) (taken + 1) rest
      else if c = '"' then some (piece.reverse, .quote, taken)
      else if c = '\\' then
        if !rest.isEmpty && endsLine rest then some (piece.reverse, .escapedBreak, taken)
        else
          match readEscape rest with
          | some (written, count) =>
            readQuotedPiece single fuel (written :: piece) (taken + 1 + count) (rest.drop count)
          | none => none
      else readQuotedPiece single fuel (c :: piece) (taken + 1) rest

/-- The pieces of a quoted scalar up to its closing quote. A document marker at the start of a line
and the end of the stream are refused. -/
def readQuoted (single : Bool) : Nat → List Char → Cursor → Option (List Char × Cursor)
  | 0, _, _ => none
  | fuel + 1, text, cursor =>
    if cursor.atDocumentMarker || cursor.rest.isEmpty then none
    else do
      let (piece, stop, taken) ← readQuotedPiece single (cursor.left + 1) [] 0 cursor.rest
      let text := push text piece
      let cursor := cursor.skip taken
      match stop with
      | .quote => some (text.reverse, cursor.skip 1)
      | .text => none
      | .gap =>
        let (gap, after) ← readGap 0 (cursor.left + 1) .none cursor
        readQuoted single fuel (push text gap.fold) after
      | .escapedBreak =>
        let broken := (cursor.skip 1).skipBreak
        let (gap, after) ← readGap 0 (broken.left + 1) .escaped broken
        readQuoted single fuel (push text gap.fold) after

/-! ### Block scalars -/

/-- What becomes of the line breaks at the end of a block scalar. -/
inductive Chomp where
  | strip
  | clip
  | keep
deriving DecidableEq

def chomp? (c : Char) : Option Chomp :=
  if c = '-' then some .strip else if c = '+' then some .keep else none

/-- The indicators after `|` or `>`: chomping and an indentation from 1 to 9, in either order. -/
def readBlockHeader (text : List Char) : Option (Chomp × Option Nat × List Char) :=
  let width (c : Char) : Option Nat := if '1' ≤ c ∧ c ≤ '9' then some (c.toNat - 48) else none
  match text with
  | [] => some (.clip, none, [])
  | c :: rest =>
    match chomp? c with
    | some chomp =>
      match rest with
      | d :: after =>
        if isDigit d then (width d).map fun w => (chomp, some w, after)
        else some (chomp, none, d :: after)
      | [] => some (chomp, none, [])
    | none =>
      if isDigit c then do
        let w ← width c
        match rest with
        | d :: after =>
          match chomp? d with
          | some chomp => some (chomp, some w, after)
          | none => some (.clip, some w, d :: after)
        | [] => some (.clip, some w, [])
      else some (.clip, none, c :: rest)

/-- The rest of a line that holds nothing but a comment, and the break that ends it. -/
def skipLineEnd (cursor : Cursor) : Option Cursor :=
  let cursor := cursor.skipWhile isBlank
  let cursor :=
    if cursor.rest.head? = some '#' then cursor.skipWhile (fun c => !isBreak c) else cursor
  if endsLine cursor.rest then some cursor.skipBreak else none

/-- Empty lines before a line of a block scalar: their breaks, the widest indentation seen, and the
place of the first character that is no indentation. Without a known indentation all spaces count
as such; a tab may not stand among them. -/
def readBlockBreaks (indent : Option Nat) :
    Nat → List Char → Nat → Cursor → Option (List Char × Nat × Cursor)
  | 0, _, _, _ => none
  | fuel + 1, breaks, widest, cursor =>
    let isIndent (column : Nat) : Bool :=
      match indent with
      | some width => decide (column < width)
      | none => true
    match cursor.rest with
    | c :: _ =>
      if isIndent cursor.column && c == ' ' then
        readBlockBreaks indent fuel breaks widest (cursor.skip 1)
      else
        let widest := max widest cursor.column
        if isIndent cursor.column && c == '\t' then none
        else if isBreak c then
          readBlockBreaks indent fuel (push breaks cursor.breakText) widest cursor.skipBreak
        else some (breaks.reverse, widest, cursor)
    | [] => some (breaks.reverse, max widest cursor.column, cursor)

/-- The lines of a block scalar. `pending` is the break after the line read last, `breaks` those of
the empty lines after it. A folded scalar joins two lines by a space where neither starts with a
blank. -/
def readBlockLines (folded : Bool) (indent : Nat) :
    Nat → List Char → List Char → List Char → Bool → Cursor →
      Option (List Char × List Char × List Char × Cursor)
  | 0, _, _, _, _, _ => none
  | fuel + 1, text, pending, breaks, afterBlank, cursor =>
    if cursor.column ≠ indent ∨ cursor.rest.isEmpty then
      some (text.reverse, pending, breaks, cursor)
    else
      let blank := (cursor.rest.head?.map isBlank).getD false
      let joint :=
        if folded && pending == ['\n'] && !afterBlank && !blank then
          if breaks.isEmpty then [' '] else []
        else pending
      let line := cursor.rest.takeWhile fun c => !isBreak c
      let stop := cursor.skipWhile fun c => !isBreak c
      do
        let (nextBreaks, _, next) ←
          readBlockBreaks (some indent) (stop.left + 1) [] 0 stop.skipBreak
        readBlockLines folded indent fuel (push text (joint ++ breaks ++ line)) stop.breakText
          nextBreaks blank next

/-- A block scalar, after its `|` or `>`. `parent` is the indentation of the collection around it,
none at the top. -/
def readBlock (folded : Bool) (parent : Option Nat) (cursor : Cursor) :
    Option (List Char × Cursor) := do
  let (chomp, width, rest) ← readBlockHeader cursor.rest
  let body ← skipLineEnd (cursor.upTo rest)
  let declared := width.map fun w => parent.getD 0 + w
  let (breaks, widest, first) ← readBlockBreaks declared (body.left + 1) [] 0 body
  let least := match parent with
    | some column => column + 1
    | none => 1
  let indent := declared.getD (max widest least)
  let (text, pending, breaks, after) ←
    readBlockLines folded indent (first.left + 1) [] [] breaks false first
  let kept := match chomp with
    | .strip => text
    | .clip => text ++ pending
    | .keep => text ++ pending ++ breaks
  return (kept, after)

end Rollout.Yaml
