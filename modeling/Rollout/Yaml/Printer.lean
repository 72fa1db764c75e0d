import Rollout.Yaml.Char
import Rollout.Yaml.Scalar

/-!
Block-style YAML text of nested sections of numbers and texts. A text is written in the simplest
style that keeps it: plain, in single quotes when a plain scalar would end early or mean something
else, as a literal block when it has line feeds, and in double quotes when only escapes can keep
it.
-/

namespace Rollout.Yaml

/-- A document of named sections. -/
inductive Outline where
  | number (value : Int)
  | text (value : String)
  | section (entries : List (String × Outline))

namespace Printer

/-- Characters that are written as they stand in every style. -/
def isPrintable (c : Char) : Bool :=
  c = '\n' || (' ' ≤ c && c ≤ '~') ||
    ('\u00a0' ≤ c && c ≠ '\ufeff' && c ≠ '\ufffe' && c ≠ '\uffff')

def hasSpecial (text : List Char) : Bool := text.any fun c => !isPrintable c

/-- Whether a character with `first` is followed directly by one with `second`. -/
def hasPair (first second : Char → Bool) : List Char → Bool
  | a :: b :: rest => (first a && second b) || hasPair first second (b :: rest)
  | _ => false

def isSpace (c : Char) : Bool := c = ' '

def startsWith (p : Char → Bool) (text : List Char) : Bool := (text.head?.map p).getD false

def endsWith (p : Char → Bool) (text : List Char) : Bool := (text.getLast?.map p).getD false

/-- Whether a plain scalar may not begin this way. -/
def startsIndicator (text : List Char) : Bool :=
  match text with
  | c :: rest =>
    "#,[]\x7b\x7d&*!|>'\"%@\x60".toList.contains c || ("-?:".toList.contains c && endsWord rest) ||
      "---".toList.isPrefixOf text || "...".toList.isPrefixOf text
  | [] => false

/-- Whether a colon at a word's end, or a comment, stands after the first character. -/
def hasIndicator : List Char → Bool
  | _ :: ':' :: rest => endsWord rest || hasIndicator (':' :: rest)
  | c :: '#' :: rest => isBlank c || isBreak c || hasIndicator ('#' :: rest)
  | _ :: rest => hasIndicator rest
  | [] => false

/-- Whether a plain scalar with this text would be read as null, a truth value or a number, or
looks like a number with leading zeros. -/
def isAmbiguous (text : String) : Bool :=
  let whole := match wholeNumber? text.toList with
    | some value => decide (-0x80000000000000000000000000000000 ≤ value ∧
        value < 0x100000000000000000000000000000000)
    | none => false
  text.isEmpty || isNull text || (truth? text).isSome || whole || isPaddedNumber text.toList ||
    isFloat text.toList

/-- Texts that keep their meaning as a plain scalar on one line. -/
def fitsPlain (text : List Char) : Bool :=
  !text.isEmpty && !startsWith isSpace text && !endsWith isSpace text && !text.any isBreak &&
    !hasSpecial text && !startsIndicator text && !hasIndicator text

/-- Texts that single quotes keep: no special character, and no space next to a line break. -/
def fitsSingle (text : List Char) : Bool :=
  !hasSpecial text && !hasPair isSpace isBreak text && !hasPair isBreak isSpace text

/-- Texts that a literal block keeps: no special character, and no space at the end of a line. -/
def fitsLiteral (text : List Char) : Bool :=
  !hasSpecial text && !endsWith isSpace text && !hasPair isSpace isBreak text

inductive Form where
  | plain
  | single
  | double
  | literal
deriving DecidableEq

/-- The style in which a text is written. -/
def form (text : String) : Form :=
  let chars := text.toList
  if chars.contains '\n' then (if fitsLiteral chars then .literal else .double)
  else if !isAmbiguous text && fitsPlain chars then .plain
  else if fitsSingle chars then .single
  else .double

def indentation (width : Nat) : List Char := List.replicate width ' '

def hexUpper (n : Nat) : Char := if n < 10 then Char.ofNat (48 + n) else Char.ofNat (55 + n)

/-- The last `count` hexadecimal digits of a number. -/
def hexDigits : Nat → Nat → List Char
  | 0, _ => []
  | count + 1, n => hexDigits count (n / 16) ++ [hexUpper (n % 16)]

/-- The letter of a short escape. -/
def escapeLetter? (c : Char) : Option Char :=
  match c with
  | '\x00' => some '0'
  | '\x07' => some 'a'
  | '\x08' => some 'b'
  | '\t' => some 't'
  | '\n' => some 'n'
  | '\x0b' => some 'v'
  | '\x0c' => some 'f'
  | '\r' => some 'r'
  | '\x1b' => some 'e'
  | '"' => some '"'
  | '\\' => some '\\'
  | '\u0085' => some 'N'
  | '\u2028' => some 'L'
  | '\u2029' => some 'P'
  | _ => none

/-- A character between double quotes. -/
def escape (c : Char) : List Char :=
  match escapeLetter? c with
  | some letter => ['\\', letter]
  | none =>
    if isPrintable c then [c]
    else if c.toNat < 0x100 then '\\' :: 'x' :: hexDigits 2 c.toNat
    else if c.toNat < 0x10000 then '\\' :: 'u' :: hexDigits 4 c.toNat
    else '\\' :: 'U' :: hexDigits 8 c.toNat

def doubleQuoted (text : List Char) : List Char := '"' :: text.flatMap escape ++ ['"']

/-- The characters between single quotes: a quote is doubled, and a new line is indented. The flag
tells whether a break was written last. -/
def singleBody (indent : Nat) : Bool → List Char → List Char
  | broken, [] => if broken then indentation indent else []
  | broken, c :: rest =>
    if isBreak c then c :: singleBody indent true rest
    else
      (if broken then indentation indent else []) ++
        (if c = '\x27' then ['\x27', '\x27'] else [c]) ++
        singleBody indent false rest

def singleQuoted (indent : Nat) (text : List Char) : List Char :=
  '\x27' :: singleBody indent false text ++ ['\x27']

/-- The lines of a literal block. Empty lines get no indentation. -/
def literalBody (indent : Nat) : Bool → List Char → List Char
  | _, [] => []
  | broken, c :: rest =>
    if isBreak c then c :: literalBody indent true rest
    else (if broken then indentation indent else []) ++ c :: literalBody indent false rest

/-- The line breaks at the end of a literal block: none, one, or more than one or nothing else. -/
def chompMark (text : List Char) : List Char :=
  match text.reverse with
  | last :: before =>
    if !isBreak last then ['-']
    else match before with
      | previous :: _ => if isBreak previous then ['+'] else []
      | [] => ['+']
  | [] => ['-']

/-- A literal block with the breaks that end it. -/
def literal (indent : Nat) (text : List Char) : List Char :=
  let hint := if startsWith (fun c => isSpace c || isBreak c) text then ['2'] else []
  '|' :: hint ++ chompMark text ++ '\n' :: literalBody indent true text ++
    (if endsWith isBreak text then [] else ['\n'])

/-- A text in its style, with the end of its line. Lines after the first are indented by
`indent`. -/
def scalar (indent : Nat) (text : String) : List Char :=
  match form text with
  | .plain => text.toList ++ ['\n']
  | .single => singleQuoted indent text.toList ++ ['\n']
  | .double => doubleQuoted text.toList ++ ['\n']
  | .literal => literal indent text.toList

mutual

/-- What follows a key at column `column` and its colon. -/
def value (column : Nat) : Outline → List Char
  | .number n => ' ' :: (toString n).toList ++ ['\n']
  | .text t => ' ' :: scalar (column + 2) t
  | .section inner => '\n' :: entries (column + 2) inner

/-- The lines of a section's entries, their keys at column `column`. -/
def entries (column : Nat) : List (String × Outline) → List Char
  | [] => []
  | (key, v) :: rest =>
    indentation column ++ key.toList ++ ':' :: value column v ++ entries column rest

end

end Printer

/-- The text of a document with these sections. -/
def render (sections : List (String × Outline)) : String :=
  String.ofList (Printer.entries 0 sections)

end Rollout.Yaml
