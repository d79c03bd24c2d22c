import Meteogram.Align.Frame

/-!
# Settings

What is the same for every chart and table of a view: the clock of the station, the policy for
shared buckets, where datasets are fetched from and where the archive lies. Settings are read from
named variables; a variable that is not set leaves its default.
-/

namespace Meteogram

structure Settings where
  /-- The clock that reads epoch seconds, and whose days the archive is cut in. -/
  utcOffset : Offset
  duplicates : DuplicatePolicy
  baseUrl : Option String
  archivePath : Option String
deriving DecidableEq, Repr

/-- A variable with a value that cannot be used. -/
inductive SettingsError where
  | invalidOffset (name value : String)
  | invalidDuplicates (name value reason : String)
deriving DecidableEq, Repr

def SettingsError.message : SettingsError → String
  | invalidOffset name value =>
    name ++ "='" ++ value ++ "' is not a UTC offset in seconds east of UTC"
  | invalidDuplicates name value reason => name ++ "='" ++ value ++ "': " ++ reason

namespace Settings

/-- UTC, the last of several records in a bucket, no base URL and no archive. -/
def standard : Settings := ⟨.utc, .lastWins, none, none⟩

instance : Inhabited Settings := ⟨standard⟩

def offsetName : String := "WSVIEW_UTC_OFFSET"

def duplicatesName : String := "WSVIEW_DUPLICATES"

def baseUrlName : String := "WSVIEW_URL"

def archiveName : String := "WSVIEW_ARCHIVE"

/-- Reads a number of seconds east of UTC, white space around it aside. -/
def readOffset? (value : String) : Option Offset :=
  (Text.integer? (Text.trim value.toList)).bind Offset.east?

def ofVariables (lookup : String → Option String) : Except SettingsError Settings := do
  let utcOffset ← match lookup offsetName with
    | none => .ok standard.utcOffset
    | some value =>
      match readOffset? value with
      | some offset => .ok offset
      | none => .error (.invalidOffset offsetName value)
  let duplicates ← match lookup duplicatesName with
    | none => .ok standard.duplicates
    | some value =>
      match DuplicatePolicy.ofName value with
      | .ok policy => .ok policy
      | .error reason => .error (.invalidDuplicates duplicatesName value reason)
  return ⟨utcOffset, duplicates, lookup baseUrlName, lookup archiveName⟩

/-- What the settings fix for alignments. -/
def alignOptions (s : Settings) : AlignOptions := ⟨s.utcOffset, s.duplicates⟩

end Settings

end Meteogram
