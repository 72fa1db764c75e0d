import Rollout.Json
import Rollout.Log.Level
import Rollout.Text.Pieces

/-!
Log entries, and the two forms in which they are written: coloured text for terminals, and JSON.
Both follow a time stamp, which the writer puts in front.
-/

namespace Rollout.Log

/-- Something that happened in a part of the program, with named details. -/
structure Event where
  level : Level
  /-- The part of the program. -/
  target : String
  message : String
  fields : List (String × String) := []

inductive Format where
  | plain
  | json
deriving DecidableEq, Repr

namespace Format

def name : Format → String
  | .plain => "plain"
  | .json => "json"

def ofName? (text : String) : Option Format := [plain, json].find? (·.name = text)

end Format

/-- A written entry. -/
inductive Line where
  | text (line : String)
  | record (entry : Json)

/-- A text in one of the styles of a terminal, if styles are used. -/
def styled (coloured : Bool) (style text : String) : String :=
  if coloured then "\x1b[" ++ style ++ "m" ++ text ++ "\x1b[0m" else text

/-- The colour of a level. -/
def Level.colour : Level → String
  | .error => "31"
  | .warn => "33"
  | .info => "32"
  | .debug => "34"
  | .trace => "35"

/-- The name of a level, aligned on its right with the longest ones. -/
def Level.aligned (level : Level) : String :=
  String.ofList (List.replicate (5 - level.name.length) ' ') ++ level.name

namespace Event

/-- The names of what an entry tells. -/
def details (event : Event) : List String := "message" :: event.fields.map (·.1)

def plain (event : Event) (coloured : Bool) : String :=
  let dimmed := styled coloured "2"
  let details := event.fields.map fun field =>
    " " ++ styled coloured "3" field.1 ++ dimmed "=" ++ field.2
  styled coloured event.level.colour event.level.aligned ++ " " ++ dimmed event.target ++
    dimmed ":" ++ " " ++ event.message ++ String.join details

def json (event : Event) : Json :=
  .record [("level", .string event.level.name), ("target", .string event.target),
    ("fields", .record (("message", .string event.message) ::
      event.fields.map fun field => (field.1, .string field.2)))]

/-- A line without the carriage return that may precede its line feed. -/
def withoutReturn (line : List Char) : List Char :=
  if line.getLast? = some '\r' then line.dropLast else line

/-- The lines of an entry. A plain entry takes more than one if a detail holds line breaks. -/
def lines (event : Event) (coloured : Bool) : Format → List Line
  | .plain =>
    (Text.pieces '\n' (event.plain coloured).toList).map fun line =>
      .text (String.ofList (withoutReturn line))
  | .json => [.record event.json]

end Event

end Rollout.Log
