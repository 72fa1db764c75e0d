/-!
Character classes of YAML 1.1. A text ends where the list ends, which counts as the end of a line
and of a word.
-/

namespace Rollout.Yaml

/-- Characters that a stream may hold at all. -/
def isAllowed (c : Char) : Bool :=
  c = '\t' || c = '\n' || c = '\r' || (' ' ≤ c && c ≤ '~') || c = '\u0085' ||
    ('\u00a0' ≤ c && c ≠ '\ufffe' && c ≠ '\uffff')

/-- Line feed, carriage return, next line, line separator and paragraph separator. -/
def isBreak (c : Char) : Bool :=
  c = '\n' || c = '\r' || c = '\u0085' || c = '\u2028' || c = '\u2029'

def isBlank (c : Char) : Bool := c = ' ' || c = '\t'

/-- The characters of anchor names, tag handles and directive names. -/
def isWord (c : Char) : Bool :=
  ('0' ≤ c && c ≤ '9') || ('A' ≤ c && c ≤ 'Z') || ('a' ≤ c && c ≤ 'z') || c = '_' || c = '-'

def isDigit (c : Char) : Bool := '0' ≤ c && c ≤ '9'

def isFlowIndicator (c : Char) : Bool :=
  c = ',' || c = '[' || c = ']' || c = '\x7b' || c = '\x7d'

/-- Whether a line ends here. -/
def endsLine : List Char → Bool
  | [] => true
  | c :: _ => isBreak c

/-- Whether a word ends here. -/
def endsWord : List Char → Bool
  | [] => true
  | c :: _ => isBlank c || isBreak c

/-- How many characters the line break takes that stands here; a carriage return and the line feed
after it are one break. -/
def breakLength : List Char → Nat
  | '\r' :: '\n' :: _ => 2
  | c :: _ => if isBreak c then 1 else 0
  | [] => 0

/-- How many bytes the first `count` characters of a text take. -/
def byteLength (text : List Char) (count : Nat) : Nat :=
  (text.take count).foldl (fun size c => size + c.utf8Size) 0

/-- A place in a text: what is left to read and how much, and the line and column it starts at. A
column counts characters, the offset the bytes of the line that stand before the place. -/
structure Cursor where
  rest : List Char
  left : Nat
  line : Nat
  column : Nat
  offset : Nat
  left_eq : left = rest.length

namespace Cursor

def start (text : List Char) : Cursor := ⟨text, text.length, 0, 0, 0, rfl⟩

/-- Moves over `count` characters of one line. -/
def skip (cursor : Cursor) (count : Nat) : Cursor :=
  ⟨cursor.rest.drop count, cursor.left - count, cursor.line, cursor.column + count,
    cursor.offset + byteLength cursor.rest count, by rw [cursor.left_eq, List.length_drop]⟩

/-- Moves over `count` characters to the start of the next line. -/
def nextLine (cursor : Cursor) (count : Nat) : Cursor :=
  ⟨cursor.rest.drop count, cursor.left - count, cursor.line + 1, 0, 0,
    by rw [cursor.left_eq, List.length_drop]⟩

/-- Moves to a later place of the same line, given by what is left there. -/
def upTo (cursor : Cursor) (rest : List Char) : Cursor := cursor.skip (cursor.left - rest.length)

/-- Moves over a line break, if one stands here. -/
def skipBreak (cursor : Cursor) : Cursor :=
  match breakLength cursor.rest with
  | 0 => cursor
  | count => cursor.nextLine count

/-- What the line break that stands here contributes to a scalar: line and paragraph separators
are kept, every other break is a line feed. -/
def breakText (cursor : Cursor) : List Char :=
  match cursor.rest with
  | c :: _ =>
    if c = '\u2028' || c = '\u2029' then [c] else if isBreak c then ['\n'] else []
  | [] => []

def skipWhile (p : Char → Bool) (cursor : Cursor) : Cursor :=
  cursor.skip (cursor.rest.takeWhile p).length

/-- Moves over a byte order mark at the start of a line, where it takes up a column. -/
def skipMark (cursor : Cursor) : Cursor :=
  if cursor.column == 0 && cursor.rest.head? == some '\ufeff' then cursor.skip 1 else cursor

/-- Whether a document marker, three times `mark`, stands here at the start of a line. -/
def atMarker (cursor : Cursor) (mark : Char) : Bool :=
  cursor.column == 0 &&
    match cursor.rest with
    | a :: b :: c :: rest => a == mark && b == mark && c == mark && endsWord rest
    | _ => false

/-- Whether `---` or `...` stands here at the start of a line. -/
def atDocumentMarker (cursor : Cursor) : Bool := cursor.atMarker '-' || cursor.atMarker '.'

end Cursor

end Rollout.Yaml
