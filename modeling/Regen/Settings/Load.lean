import Regen.Charset.Pieces
import Regen.Settings
import Regen.Workspace.Regeneration
import Regen.Yaml.Value

/-!
# Loading settings

Settings stand in a YAML mapping. The file is the one given, the one that the environment names, or
`autoc.yaml` in the working directory; only a file that is looked for by default may be missing.
-/

namespace Regen

/-- Why settings cannot be loaded. -/
inductive SettingsFault where
  | file (failure : FileFailure)
  | malformed
  /-- A scalar that denotes no value. -/
  | misfit (reason : Yaml.Misfit)
  | notMapping (path : Path)
  | unknownKeys (path : Path) (names : List WideText)
  /-- Unknown keys of which the first in order is no text. -/
  | keyNotText (type : Text)
  /-- Unknown keys that have no order among each other. -/
  | keysUnordered (first second : Text)
  /-- Unknown keys of which some are dates and some points in time. -/
  | datesUnordered
  /-- Unknown keys of which some are points in time with a time zone and some without. -/
  | zonesUnordered
  | notTexts (path : Path) (key : Text)
  | notPositive (path : Path) (key : Text)
  | notText (path : Path) (key : Text)
  /-- The environment names the home of someone unknown. -/
  | unknownHome
  /-- A file is asked for, but none is named. -/
  | noPath
  /-- A limit has too many digits to be shown. -/
  | oversizedLimit
deriving Repr

namespace SettingsFault

def message : SettingsFault → Text
  | file failure => failure.message
  | malformed => "malformed YAML".toList
  | misfit reason => reason.message
  | notMapping path => "config at ".toList ++ path.render ++ " is not a YAML mapping".toList
  | unknownKeys path names =>
    "unknown config key(s) in ".toList ++ path.render ++ ": ".toList ++
      ", ".toList.intercalate (names.map WideText.display)
  | keyNotText type => "sequence item 0: expected str instance, ".toList ++ type ++ " found".toList
  | keysUnordered first second =>
    "'<' not supported between instances of '".toList ++ first ++ "' and '".toList ++ second ++ "'".toList
  | datesUnordered => "can't compare datetime.datetime to datetime.date".toList
  | zonesUnordered => "can't compare offset-naive and offset-aware datetimes".toList
  | notTexts path key => path.render ++ ": '".toList ++ key ++ "' must be a list of strings".toList
  | notPositive path key => path.render ++ ": '".toList ++ key ++ "' must be a positive integer".toList
  | notText path key => path.render ++ ": '".toList ++ key ++ "' must be a string".toList
  | unknownHome => "Could not determine home directory.".toList
  | oversizedLimit => Failure.message (.oversizedInteger none)
  | noPath => "expected str, bytes or os.PathLike object, not list".toList

end SettingsFault

namespace Yaml.Scalar

/-- The name of the kind of a value in messages. -/
def typeName : Scalar → Text
  | null => "NoneType".toList
  | bool _ => "bool".toList
  | int _ => "int".toList
  | float _ => "float".toList
  | binary _ => "bytes".toList
  | date _ => "datetime.date".toList
  | moment _ => "datetime.datetime".toList
  | text _ => "str".toList

def text? : Scalar → Option WideText
  | text points => some points
  | _ => none

/-- The date or point in time that a key is. -/
def calendar? : Scalar → Option Yaml.Calendar
  | date day => some day
  | moment time => some time
  | _ => none

end Yaml.Scalar

namespace Settings

/-- The keys that settings have, in the order in which they are checked. -/
def keys : List WideText :=
  ["extensions", "exclude", "max_iterations", "max_call_depth", "encoding"].map fun key => .ofText key.toList

/-- The least of some numbers with their keys. -/
def leastKey (first : Yaml.Scalar) (rest : List Yaml.Scalar) : Yaml.Scalar :=
  rest.foldl (fun least key =>
    match key.number?, least.number? with
    | some x, some y => if x.lt y then key else least
    | _, _ => least) first

/-- Why unknown keys that are not all texts cannot be named. Keys are put in order first, which only texts, numbers,
dates and points in time have, each among themselves. -/
def unnamedKeys (first : Yaml.Scalar) (rest : List Yaml.Scalar) : SettingsFault :=
  let all := first :: rest
  if all.all fun key => key.number?.isSome then .keyNotText (leastKey first rest).typeName
  else
    match all.mapM Yaml.Scalar.calendar? with
    | some calendars =>
      let times := calendars.filterMap Yaml.Calendar.time
      if times.isEmpty then .keyNotText first.typeName
      else if times.length ≠ all.length then .datesUnordered
      else if times.any (·.zone.isSome) && times.any (·.zone.isNone) then .zonesUnordered
      else .keyNotText first.typeName
    | none =>
      match rest.find? fun key => key.typeName ≠ first.typeName with
      | some other => .keysUnordered other.typeName first.typeName
      | none => .keyNotText first.typeName

/-- Refuses keys that settings do not have. -/
def checkKeys (path : Path) (entries : List (Yaml.Scalar × Yaml.Value)) : Except SettingsFault Unit :=
  let unknown := (entries.map Prod.fst).filter fun key => !(key.text?.any keys.contains)
  match unknown with
  | [] => .ok ()
  | first :: rest =>
    match unknown.mapM Yaml.Scalar.text? with
    | some names =>
      .error (.unknownKeys path
        (names.mergeSort fun a b => !((b.map CodePoint.toNat).lex (a.map CodePoint.toNat) Nat.blt)))
    | none => .error (unnamedKeys first rest)

def text? : Yaml.Value → Option WideText
  | .scalar value => value.text?
  | _ => none

def texts? : Yaml.Value → Option (List WideText)
  | .list items => items.mapM text?
  | _ => none

def positive? : Yaml.Value → Option Int
  | .scalar (.int n) => if 0 < n then some n else none
  | _ => none

/-- The setting of a key: its value in the file, if it has one there and that is of the kind asked for, and
otherwise the default. -/
def setting {α : Type} (entries : List (Yaml.Scalar × Yaml.Value)) (key : String) (read? : Yaml.Value → Option α)
    (fault : Text → SettingsFault) (default : α) : Except SettingsFault α :=
  match entries.lookup (.text (.ofText key.toList)) with
  | none => .ok default
  | some value =>
    match read? value with
    | some result => .ok result
    | none => .error (fault key.toList)

/-- The settings that the value of a file gives. -/
def ofYaml (path : Path) : Option Yaml.Value → Except SettingsFault Settings
  | none | some (.scalar .null) => .ok .default
  | some (.mapping entries) => do
    checkKeys path entries
    let extensions ← setting entries "extensions" texts? (.notTexts path) default.extensions
    let exclude ← setting entries "exclude" texts? (.notTexts path) default.exclude
    let maxIterations ← setting entries "max_iterations" positive? (.notPositive path) default.maxIterations
    let maxCallDepth ← setting entries "max_call_depth" positive? (.notPositive path) default.maxCallDepth
    let encoding ← setting entries "encoding" text? (.notText path) default.encoding
    return { extensions, exclude, maxIterations, maxCallDepth, encoding }
  | some _ => .error (.notMapping path)

end Settings

/-- What a run finds around it. -/
structure Surroundings where
  workspace : Workspace
  home : Location
  /-- The home directories of all who are known by name. -/
  homes : List (Text × Location)
  /-- The file that the environment names. -/
  configured : Option Text
  codecs : Codecs := .standard
  /-- How the text of a file with settings is read. -/
  loader : Yaml.Source → Except Yaml.Fault (Option Yaml.Value) := Yaml.load

namespace Surroundings

def absolute (location : Location) : Path := ⟨['/'], location⟩

/-- The home directory that belongs to a name. With no name it is that of the run itself. -/
def homeOf? (surroundings : Surroundings) (name : Text) : Option Location :=
  if name.isEmpty then some surroundings.home else surroundings.homes.lookup name

/-- A path with a home directory in place of a tilde and the name after it. -/
def expandHome (surroundings : Surroundings) (path : Path) : Except SettingsFault Path :=
  match path.root, path.parts with
  | [], ('~' :: name) :: rest =>
    match surroundings.homeOf? name with
    | some home => .ok (absolute (home ++ rest))
    | none => .error .unknownHome
  | _, _ => .ok path

/-- The path of the settings unless one is given. -/
def defaultPath (surroundings : Surroundings) : Except SettingsFault Path :=
  match surroundings.configured with
  | some (c :: name) => surroundings.expandHome (.ofText (c :: name))
  | _ => .ok (absolute (surroundings.workspace.directory ++ ["autoc.yaml".toList]))

def settingsAt (surroundings : Surroundings) (path : Path) : Except SettingsFault Settings := do
  let (_, bytes) ← (surroundings.workspace.read path).mapError fun fault => .file (.access path fault)
  let (portions, broken) := Utf8.portions bytes
  match surroundings.loader (.ofPortions portions broken.isSome), broken with
  | .ok value, _ => Settings.ofYaml path value
  | .error .unreadable, some fault => throw (.file (.undecodable fault))
  | .error (.misfit reason), _ => throw (.misfit reason)
  | .error _, _ => throw .malformed

/-- The settings of a run, for the path of their file if one is given. -/
def settings (surroundings : Surroundings) : Option Path → Except SettingsFault Settings
  | some path => surroundings.settingsAt path
  | none => do
    let path ← surroundings.defaultPath
    match surroundings.workspace.find path with
    | .ok (_, .file _) => surroundings.settingsAt path
    | .error .nameTooLong => throw (.file (.access path .nameTooLong))
    | _ => return .default

end Surroundings

end Regen
