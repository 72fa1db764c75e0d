import Rollout.Binary64.Decimal
import Rollout.Json
import Rollout.Text.Encoding

/-!
Compact JSON text. Characters outside printable ASCII are written as escapes of their UTF-16
units, so a written text is plain ASCII.
-/

namespace Rollout.Json

/-- The escape of one UTF-16 unit. -/
def unitEscape (unit : Nat) : List Char :=
  ['\\', 'u', Text.Hex.digit (unit / 4096 % 16), Text.Hex.digit (unit / 256 % 16),
    Text.Hex.digit (unit / 16 % 16), Text.Hex.digit (unit % 16)]

def escapeChar (c : Char) : List Char :=
  if c = '"' then ['\\', '"']
  else if c = '\\' then ['\\', '\\']
  else if ' ' ≤ c ∧ c ≤ '~' then [c]
  else if c.toNat < 0x10000 then unitEscape c.toNat
  else
    let above := c.toNat - 0x10000
    unitEscape (0xD800 + above / 1024) ++ unitEscape (0xDC00 + above % 1024)

def quote (s : String) : List Char := '"' :: s.toList.flatMap escapeChar ++ ['"']

def Number.write : Number → List Char
  | .integer value => (toString value).toList
  | .real value =>
    let (digits, exponent) := value.shortest
    (if value.isNegative then ['-'] else []) ++ (toString digits).toList ++ 'e' ::
      (toString exponent).toList

mutual

def write : Json → List Char
  | .null => "null".toList
  | .bool true => "true".toList
  | .bool false => "false".toList
  | .number value => value.write
  | .string value => quote value
  | .array items => '[' :: writeItems items ++ [']']
  | .object entries => '\x7b' :: writeEntries entries ++ ['\x7d']
  | .unreadable => "null".toList

def writeItems : List Json → List Char
  | [] => []
  | [item] => write item
  | item :: rest => write item ++ ',' :: writeItems rest

def writeEntries : List (String × Json) → List Char
  | [] => []
  | [(key, value)] => quote key ++ ':' :: write value
  | (key, value) :: rest => quote key ++ ':' :: write value ++ ',' :: writeEntries rest

end

def render (value : Json) : String := String.ofList (write value)

end Rollout.Json
