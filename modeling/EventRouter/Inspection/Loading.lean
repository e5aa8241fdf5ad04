import EventRouter.Event.Document
import EventRouter.Inspection.Settings
import EventRouter.Snapshot.Document

/-! Loading the settings, the snapshot and the event of an inspection from files. Settings and
snapshots are JSON5 files, an event is a JSON file. -/

namespace EventRouter.Inspection

/-- The reasons for which a file cannot be read. -/
inductive FileError where
  | notFound
  | isDirectory
  | notDirectory
  /-- The path, or one of the names in it, is too long. -/
  | nameTooLong
  | invalidPath
  | unreadable
deriving DecidableEq, Repr

/-- The name of a reason. -/
def FileError.name : FileError → String
  | notFound => "NotFound"
  | isDirectory => "IsADirectory"
  | notDirectory => "NotADirectory"
  | nameTooLong => "InvalidFilename"
  | invalidPath => "InvalidInput"
  | unreadable => "Other"

/-- A reason for which something cannot be loaded. -/
inductive LoadError where
  | file (e : FileError)
  | content (dialect : Dialect) (flaw : Flaw)
deriving DecidableEq, Repr

/-- A way to read the file at a path. -/
abbrev FileReader (m : Type → Type) := String → m (Except FileError String)

/-- Decodes what a source holds. -/
def decodeSource (decode : Decoder α) (source : Source) : Except LoadError α :=
  match decode.run source with
  | .ok a => .ok a
  | .error flaw => .error (.content source.dialect flaw)

/-- Loads the content of a file. -/
def loadFile [Monad m] (read : FileReader m) (decode : Decoder α) (source : String → Source)
    (path : String) : m (Except LoadError α) := do
  match ← read path with
  | .ok text => return decodeSource decode (source text)
  | .error e => return .error (.file e)

/-- Loads settings. -/
def loadSettings [Monad m] (read : FileReader m) (path : String) :
    m (Except LoadError Settings) :=
  loadFile read Settings.decode .json5 path

namespace Settings

/-- Loads the snapshot that settings name. -/
def loadSnapshot [Monad m] (c : Settings) (read : FileReader m) :
    m (Except LoadError Snapshot) :=
  loadFile read Snapshot.decode .json5 c.targetsFile

/-- Loads the event that settings name, if they name one. -/
def loadEvent [Monad m] (c : Settings) (read : FileReader m) :
    m (Except LoadError (Option Event)) := do
  match c.eventFile with
  | none => return .ok none
  | some path => return (← loadFile read Event.decode .json path).map some

end Settings

end EventRouter.Inspection
