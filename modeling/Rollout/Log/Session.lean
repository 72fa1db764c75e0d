import Rollout.Entries
import Rollout.FileTree
import Rollout.Log.Filter

/-!
Logging in a process. It is set up once, from an environment variable that holds the filter and
from a second one, named after the first, that may name a directory for a log file. Entries go to
the standard output and are copied to that file. A second set-up fails and leaves the first one in
force, but its file has been created by then.
-/

namespace Rollout.Log

/-- The environment of a process. -/
structure Environment where
  bindings : List (String × String) := []
  /-- The directory that relative paths start from. -/
  working : List String := []

namespace Environment

/-- The filter that a variable holds. One that cannot be read counts as not set. -/
def filter (environment : Environment) (variableName : String) : Filter :=
  ((Entries.find? variableName environment.bindings).bind Filter.ofText?).getD .standard

/-- The directory for log files, in a variable named after that of the filter. -/
def directory? (environment : Environment) (variableName : String) : Option String :=
  Entries.find? (variableName ++ "_DIRECTORY") environment.bindings

/-- Whether text for terminals is coloured, which a variable of any value turns off. -/
def isColoured (environment : Environment) : Bool :=
  ((Entries.find? "NO_COLOR" environment.bindings).getD "").isEmpty

end Environment

/-- Where the entries of a process go, and which. -/
structure Subscriber where
  filter : Filter
  format : Format
  coloured : Bool
  /-- The place of the log file. -/
  file : Option (List String)

/-- A subscriber that someone else has installed, and that writes somewhere else. -/
def Subscriber.foreign : Subscriber := ⟨⟨[]⟩, .plain, false, none⟩

inductive SetupError where
  /-- A log file could not be created in a directory. -/
  | noFile (directory : String)
  /-- Logging is set up already. -/
  | occupied
deriving DecidableEq

def SetupError.message : SetupError → String
  | .noFile directory => "failed to initialize rolling file appender in " ++ directory
  | .occupied => "failed to install the global tracing subscriber"

/-- Logging in a process, what it has written so far, and the files it writes to. -/
structure Session where
  environment : Environment := {}
  subscriber : Option Subscriber := none
  output : List Line := []
  tree : FileTree Line := {}

namespace Session

/-- Writes an entry, if it passes the filter. -/
def write (session : Session) (event : Event) : Session :=
  match session.subscriber with
  | none => session
  | some subscriber =>
    if subscriber.filter.admits event then
      let lines := event.lines subscriber.coloured subscriber.format
      { session with
        output := session.output ++ lines
        tree := match subscriber.file with
          | some place => session.tree.append place lines
          | none => session.tree }
    else session

/-- The path of the log file of an application. One that begins at the root leaves the directory
aside. -/
def filePath (directory application : String) : String :=
  let name := application ++ ".log"
  if name.startsWith "/" || directory.isEmpty then name
  else if directory.endsWith "/" then directory ++ name
  else directory ++ "/" ++ name

/-- What is reported about the log file once logging works. -/
def started (directory : Option String) : Event :=
  let target := "loki_operator::logging"
  match directory with
  | some directory => ⟨.info, target, "file logging enabled", [("directory", directory)]⟩
  | none => ⟨.debug, target, "file logging disabled, because no log directory set", []⟩

/-- Opens the log file of an application, if there is a directory for it. -/
def openFile (session : Session) (directory : Option String) (application : String) :
    Except SetupError (Option (List String)) × Session :=
  match directory with
  | none => (.ok none, session)
  | some directory =>
    let (tree, place) :=
      session.tree.openPath session.environment.working (filePath directory application)
    let outcome := match place with
      | some place => .ok (some place)
      | none => .error (.noFile directory)
    (outcome, { session with tree })

/-- Installs a subscriber, unless there is one. -/
def install (session : Session) (subscriber : Subscriber) : Except SetupError Unit × Session :=
  if session.subscriber.isSome then (.error .occupied, session)
  else (.ok (), { session with subscriber := some subscriber })

/-- Sets up logging for an application. -/
def setUp (session : Session) (variableName application : String) (format : Format) :
    Except SetupError Unit × Session :=
  let filter := session.environment.filter variableName
  let directory := session.environment.directory? variableName
  match session.openFile directory application with
  | (.error cause, session) => (.error cause, session)
  | (.ok file, session) =>
    match session.install ⟨filter, format, session.environment.isColoured, file⟩ with
    | (.ok (), session) => (.ok (), session.write (started directory))
    | failed => failed

end Session

end Rollout.Log
