import MessageTemplate.Time.Zone.History
import MessageTemplate.Time.Zone.Africa
import MessageTemplate.Time.Zone.America
import MessageTemplate.Time.Zone.Asia
import MessageTemplate.Time.Zone.Europe
import MessageTemplate.Time.Zone.Pacific
import MessageTemplate.Time.Zone.Atlantic
import MessageTemplate.Time.Zone.Global
import MessageTemplate.Time.Zone.Aliases
/-! Named time zones: the offset a zone's clocks show at an instant. -/
namespace MessageTemplate.Zone

/-- Every zone of the database by name, with its history as text. -/
def zones : List (String × String) :=
  africa ++ america ++ asia ++ europe ++ pacific ++ atlantic ++ global

/-- The history of the zone a name of the database stands for, if it has the name. -/
def find? (name : String) : Option History :=
  let zone := ((aliases.lookup name).getD name)
  (zones.lookup zone).map History.read

def directories : List String :=
  ["Africa", "America", "America/Argentina", "America/Indiana", "America/Kentucky",
   "America/North_Dakota", "Antarctica", "Arctic", "Asia", "Atlantic", "Australia", "Etc",
   "Europe", "Indian", "Pacific"]

def tables : List String :=
  ["iso3166.tab", "leap-seconds.list", "leapseconds", "tzdata.zi", "zone.tab", "zone1970.tab",
   "zonenow.tab"]

def extraFiles : List (String × String) :=
  [("posixrules", "America/New_York"), ("localtime", "Etc/UTC")]

def isFile (path : String) : Bool :=
  tables.contains path || (extraFiles.lookup path).isSome ||
    ((zones.lookup path).isSome || (aliases.lookup path).isSome) && !outsideTree.contains path

def maxPathBytes : Nat := 4075

def maxPartBytes : Nat := 255

/-- Why a zone name leads to no zone. -/
inductive LookupError where
  | unknown
  | directory
  | notDirectory
  | notZone
  | tooLong
  | invalid
deriving DecidableEq, Repr

/-- The message of a lookup error for a name. -/
def LookupError.message (name : String) : LookupError → String
  | .unknown => "unknown time zone " ++ name
  | .directory => "is a directory"
  | .notDirectory => "not a directory"
  | .notZone => "malformed time zone information"
  | .tooLong => "file name too long"
  | .invalid => "invalid argument"

/-- Where a walk through the tree has got to: a directory or a file, by its path, or a fault. -/
inductive Place where
  | directory (path : List String)
  | file (path : List String)
  | fault (e : LookupError)
deriving DecidableEq, Repr

/-- One part of a path taken from a place. -/
def Place.step : Place → String → Place
  | .directory path, part =>
    if part.isEmpty || part = "." then .directory path
    else if part.utf8ByteSize > maxPartBytes then .fault .tooLong
    else
      let next := path ++ [part]
      let name := "/".intercalate next
      if directories.contains name then .directory next
      else if isFile name then .file next
      else .fault .unknown
  | .file _, _ => .fault .notDirectory
  | .fault e, _ => .fault e

def walk (name : String) : Except LookupError History :=
  if name.toList.contains (Char.ofNat 0) then .error .invalid
  else if name.utf8ByteSize > maxPathBytes then .error .tooLong
  else
    match (name.splitOn "/").foldl Place.step (.directory []) with
    | .directory _ => .error .directory
    | .file path =>
      let file := "/".intercalate path
      if tables.contains file then .error .notZone
      else
        match find? ((extraFiles.lookup file).getD file) with
        | some h => .ok h
        | none => .error .unknown
    | .fault e => .error e

def locate (name : String) : Except LookupError History :=
  match walk name with
  | .ok h => .ok h
  | .error e =>
    match find? name with
    | some h => .ok h
    | none => .error e

end MessageTemplate.Zone
