import Rollout.Log.Event
import Rollout.Stack.Spec

/-!
The command line of the operator. A switch turns a feature on, and may also be set by an
environment variable of its name; an option names the format of the log. The value of an option is
looked at when the next option begins or the line ends, so that an unknown option before that is
what is reported.
-/

namespace Rollout

/-- A feature that can be switched on. -/
inductive Switch where
  | certificateSigning
  | serviceMonitors
  | tlsServiceMonitors
deriving DecidableEq

namespace Switch

def all : List Switch := [certificateSigning, serviceMonitors, tlsServiceMonitors]

def name : Switch → String
  | .certificateSigning => "enable-certificate-signing-service"
  | .serviceMonitors => "enable-service-monitors"
  | .tlsServiceMonitors => "enable-tls-service-monitor-config"

def ofName? (text : String) : Option Switch := all.find? (·.name = text)

/-- The environment variable of a switch: its name in upper case, hyphens as underscores. -/
def variableName (switch : Switch) : String :=
  switch.name.map fun c => if c = '-' then '_' else c.toUpper

end Switch

/-- What a command line asks for. -/
structure Arguments where
  flags : Stack.Flags := {}
  logFormat : Log.Format := .plain
deriving DecidableEq

namespace Arguments

inductive Error where
  /-- The value of an option or of a variable is none of the possible ones, or missing. -/
  | invalidValue
  /-- An option is given twice. -/
  | repeated
  /-- There is no such option, or there is a word without an option. -/
  | unknown
  /-- A value is given to a switch. -/
  | unexpectedValue
  /-- Help is asked for. -/
  | helpRequested
deriving DecidableEq

/-- One argument by its form. -/
inductive Argument where
  /-- Two hyphens, after which everything is a word. -/
  | separator
  | long (name : String) (value : Option String)
  | short (letter : Char)
  | word (text : String)
deriving DecidableEq

def Argument.ofText (text : String) : Argument :=
  match text.toList with
  | ['-', '-'] => .separator
  | '-' :: '-' :: rest =>
    match rest.span (· ≠ '=') with
    | (name, _ :: value) => .long (String.ofList name) (some (String.ofList value))
    | (name, []) => .long (String.ofList name) none
  | '-' :: letter :: _ => .short letter
  | _ => .word text

/-- What has been read of a command line. -/
structure Reading where
  switches : List Switch := []
  format : Option Log.Format := none
  /-- A format that is given but not looked at yet, and may still lack its value. -/
  pending : Option (Option String) := none

namespace Reading

def setFormat (reading : Reading) (text : String) : Except Error Reading :=
  if reading.format.isSome then .error .repeated
  else
    match Log.Format.ofName? text with
    | some format => .ok { reading with format := some format }
    | none => .error .invalidValue

/-- Looks at the value of the last option. -/
def settle (reading : Reading) : Except Error Reading :=
  match reading.pending with
  | none => .ok reading
  | some none => .error .invalidValue
  | some (some text) => { reading with pending := none }.setFormat text

def switchOn (reading : Reading) (switch : Switch) : Except Error Reading :=
  if reading.switches.contains switch then .error .repeated
  else .ok { reading with switches := switch :: reading.switches }

/-- Reads a long option that takes no value. -/
def readSwitch (reading : Reading) (name : String) : Except Error Reading := do
  if name = "help" then
    let _ ← reading.settle
    throw .helpRequested
  else
    match Switch.ofName? name with
    | some switch => (← reading.settle).switchOn switch
    | none => throw .unknown

/-- Reads a long option with a value attached. -/
def readAttached (reading : Reading) (name value : String) : Except Error Reading := do
  if name = "log-format" then (← reading.settle).setFormat value
  else if name = "help" ∨ (Switch.ofName? name).isSome then throw .unexpectedValue
  else throw .unknown

/-- Reads one argument. -/
def read (reading : Reading) : Argument → Except Error Reading
  | .long name (some value) => reading.readAttached name value
  | .long "log-format" none => do return { ← reading.settle with pending := some none }
  | .long name none => reading.readSwitch name
  | .short 'h' => reading.readSwitch "help"
  | .short _ => .error .unknown
  | .word text =>
    if reading.pending = some none then .ok { reading with pending := some (some text) }
    else .error .unknown
  | .separator => .ok reading

/-- Reads a list of arguments. -/
def readAll (reading : Reading) : List String → Except Error Reading
  | [] => reading.settle
  | text :: rest =>
    match Argument.ofText text with
    | .separator => if rest.isEmpty then reading.settle else .error .unknown
    | argument => do (← reading.read argument).readAll rest

/-- Whether a feature is switched on, by an argument or else by its variable. -/
def isOn (reading : Reading) (environment : List (String × String)) (switch : Switch) :
    Except Error Bool :=
  if reading.switches.contains switch then .ok true
  else
    match Entries.find? switch.variableName environment with
    | none => .ok false
    | some "true" => .ok true
    | some "false" => .ok false
    | some _ => .error .invalidValue

end Reading

/-- Reads a command line in an environment. -/
def ofCommandLine (arguments : List String) (environment : List (String × String)) :
    Except Error Arguments := do
  let reading ← Reading.readAll {} arguments
  let isOn := reading.isOn environment
  return {
    flags := {
      certificateSigning := ← isOn .certificateSigning
      serviceMonitors := ← isOn .serviceMonitors
      tlsServiceMonitors := ← isOn .tlsServiceMonitors }
    logFormat := reading.format.getD .plain }

end Arguments

end Rollout
