import Rollout.Source

/-!
Two-way descriptions of types: one `Codec` holds how a value is read from a document and how it is
written as JSON. A record is described by its list of fields, put together with the applicative
operators around the record's constructor; each field names its key, its codec and its projection,
so reading and writing cannot name different keys.
-/

namespace Rollout

structure Codec (α : Type) where
  read : {ν : Type} → [Source ν] → ν → Option α
  write : α → Json
  /-- How many references reading follows, counted for each time that it does. -/
  follows : {ν : Type} → [Source ν] → ν → Nat := fun v => Source.references v

namespace Codec

def text : Codec String where
  read v := Source.text? v
  write := .string

def bool : Codec Bool where
  read v := Source.bool? v
  write := .bool

/-- Whole numbers of 32 bits. -/
def int32 : Codec Int32 where
  read v := do
    let value ← Source.integer? v
    if -0x80000000 ≤ value ∧ value < 0x80000000 then some (Int32.ofInt value) else none
  write value := .integer value.toInt

/-- Whole numbers of 64 bits. -/
def int64 : Codec Int64 where
  read v := do
    let value ← Source.integer? v
    if -0x8000000000000000 ≤ value ∧ value < 0x8000000000000000 then some (Int64.ofInt value)
    else none
  write value := .integer value.toInt

/-- Alternatives without data, by name. -/
def alternative {α : Type} (ofName? : String → Option α) (name : α → String) : Codec α where
  read v := do ofName? (← Source.alternative? v)
  write value := .string (name value)

def list {α : Type} (item : Codec α) : Codec (List α) where
  read v := do (← Source.items? v).mapM fun entry => item.read entry
  write values := .array (values.map item.write)
  follows v :=
    ((Source.items? v).getD []).foldl (fun count entry => count + item.follows entry)
      (Source.references v)

/-- Maps with text keys. Every entry has to be readable; of equal keys the last one counts. -/
def map {α : Type} (item : Codec α) : Codec (KeyMap α) where
  read v := do
    let read ← (← Source.entries? v).mapM fun entry => do return (entry.1, ← item.read entry.2)
    return KeyMap.ofList read
  write values := .object (values.entries.map fun entry => (entry.1, item.write entry.2))
  follows v :=
    ((Source.entries? v).getD []).foldl (fun count entry => count + item.follows entry.2)
      (Source.references v)

end Codec

/-- The part of a record's description that yields an `α` out of records of type `σ`. Reading is
given the values that stand for a key, in document order. -/
structure Fields (σ α : Type) where
  keys : List String
  read : {ν : Type} → [Source ν] → (String → List ν) → Option α
  write : σ → List (String × Json)
  /-- How many references reading follows. -/
  follows : {ν : Type} → [Source ν] → (String → List ν) → Nat := fun _ => 0

namespace Fields

instance (σ : Type) : Applicative (Fields σ) where
  pure value := ⟨[], fun _ => some value, fun _ => [], fun _ => 0⟩
  seq first second :=
    ⟨first.keys ++ (second ()).keys,
      fun occurrences => do return (← first.read occurrences) (← (second ()).read occurrences),
      fun whole => first.write whole ++ (second ()).write whole,
      fun occurrences => first.follows occurrences + (second ()).follows occurrences⟩

section Kinds

variable {σ α : Type}

/-- How many references reading the values of a key follows. -/
def followsAt (key : String) (codec : Codec α) {ν : Type} [Source ν]
    (occurrences : String → List ν) : Nat :=
  (occurrences key).foldl (fun count v => count + codec.follows v) 0

/-- Reads a value that may say that it is unset. -/
def readUnset (codec : Codec α) {ν : Type} [Source ν] (value : ν) : Option (Option α) := do
  if ← Source.isUnset? value then return none else return some (← codec.read value)

/-- A field that may be missing or unset, and is left out when it is unset. -/
def optional (key : String) (codec : Codec α) (get : σ → Option α) : Fields σ (Option α) where
  keys := [key]
  read occurrences := do
    let read ← (occurrences key).mapM fun v => readUnset codec v
    return read.getLast?.join
  write whole := match get whole with
    | some value => [(key, codec.write value)]
    | none => []
  follows occurrences := followsAt key codec occurrences

/-- A field that may be missing or unset, and is written as null when it is unset. -/
def nullable (key : String) (codec : Codec α) (get : σ → Option α) : Fields σ (Option α) where
  keys := [key]
  read := (optional key codec get).read
  write whole := [(key, match get whole with | some value => codec.write value | none => .null)]
  follows occurrences := followsAt key codec occurrences

/-- A field that takes a default when it is missing or unset, and is always written. -/
def zeroed (key : String) (codec : Codec α) (zero : α) (get : σ → α) : Fields σ α where
  keys := [key]
  read occurrences := do
    let read ← (occurrences key).mapM fun v => readUnset codec v
    return read.getLast?.join.getD zero
  write whole := [(key, codec.write (get whole))]
  follows occurrences := followsAt key codec occurrences

/-- A field that takes a default when it is missing, and is always written. -/
def defaulted (key : String) (codec : Codec α) (default : α) (get : σ → α) : Fields σ α where
  keys := [key]
  read occurrences := do
    let read ← (occurrences key).mapM fun v => codec.read v
    return read.getLast?.getD default
  write whole := [(key, codec.write (get whole))]
  follows occurrences := followsAt key codec occurrences

/-- A list that is empty when it is missing, and left out when it is empty. -/
def listed (key : String) (codec : Codec (List α)) (get : σ → List α) : Fields σ (List α) where
  keys := [key]
  read := (defaulted key codec [] get).read
  write whole := if (get whole).isEmpty then [] else [(key, codec.write (get whole))]
  follows occurrences := followsAt key codec occurrences

/-- A field that has to be there. -/
def required (key : String) (codec : Codec α) (get : σ → α) : Fields σ α where
  keys := [key]
  read occurrences := do
    let read ← (occurrences key).mapM fun v => codec.read v
    read.getLast?
  write whole := [(key, codec.write (get whole))]
  follows occurrences := followsAt key codec occurrences

/-- A text that is the same in all records, checked where it is given. -/
def fixed (key text : String) : Fields σ Unit where
  keys := [key]
  read occurrences :=
    if (occurrences key).all fun v => Source.text? v == some text then some () else none
  write _ := [(key, .string text)]
  follows occurrences := followsAt key Codec.text occurrences

/-- A text that is the same in all records and not looked at on reading. -/
def constant (key text : String) : Fields σ Unit where
  keys := []
  read _ := some ()
  write _ := [(key, .string text)]

/-- The fields of a part of a record, which stand among those of the whole. -/
def embed (fields : Fields α α) (get : σ → α) : Fields σ α where
  keys := fields.keys
  read := fields.read
  write whole := fields.write (get whole)
  follows := fields.follows

end Kinds

variable {σ : Type}

/-- The values that stand for a key, in document order. -/
def occurrences {ν : Type} (entries : List (String × ν)) (key : String) : List ν :=
  entries.filterMap fun entry => if entry.1 = key then some entry.2 else none

/-- Whether one of the keys occurs more than once. -/
def repeats {ν : Type} (keys : List String) (entries : List (String × ν)) : Bool :=
  keys.any fun key => 1 < (occurrences entries key).length

/-- How many references reading a record with keys follows. -/
def followsKeyed (fields : Fields σ σ) {ν : Type} [Source ν] (v : ν) : Nat :=
  Source.references v + fields.follows (occurrences ((Source.entries? v).getD []))

/-- Records that may repeat a key, the last one counting; other keys are skipped. -/
def object (fields : Fields σ σ) : Codec σ where
  read v := do fields.read (occurrences (← Source.entries? v))
  write whole := .record (fields.write whole)
  follows v := followsKeyed fields v

/-- Records that name a field at most once, or list the fields in their order; other keys are
skipped. -/
def strict (fields : Fields σ σ) : Codec σ where
  read v :=
    match Source.positions? v with
    | some items =>
      if fields.keys.length < items.length then none
      else fields.read (occurrences (fields.keys.zip items))
    | none => do
      let entries ← Source.entries? v
      if repeats fields.keys entries then none else fields.read (occurrences entries)
  write whole := .record (fields.write whole)
  follows v := followsKeyed fields v

end Fields

end Rollout
