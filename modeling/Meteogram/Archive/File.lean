import Meteogram.Archive.Error
import Meteogram.Archive.Window
import Meteogram.Csv.Table

/-!
# Archive files

An archive is a file of comma-separated text or a stored frame; the extension of its name says which.
Text is read at once. A stored frame is opened first and read later, so a file without one is found
out only when its rows are asked for, and a window can leave the rows unread.
-/

namespace Meteogram

/-- What a file holds. -/
inductive FileContent where
  /-- Text, with the bytes of it that are read as its first part. -/
  | text (s : String) (partSize : Nat)
  | frame (f : Frame)

/-- A file, which may be missing. -/
structure ArchiveFile where
  path : String
  content : Option FileContent

namespace ArchiveFile

/-- The part of a path after the last slash. -/
def fileName (path : List Char) : List Char := (path.reverse.takeWhile (· ≠ '/')).reverse

/-- What comes after the last point of a file name, unless the name begins with that point. -/
def extension? (name : List Char) : Option (List Char) :=
  let after := (name.reverse.takeWhile (· ≠ '.')).reverse
  if after.length + 1 < name.length then some after else none

/-- How the content of a file is stored. -/
inductive Format where
  | parquet
  | csv
deriving DecidableEq, Repr

/-- The format of a file, by its extension in any case. -/
def format? (path : String) : Option Format :=
  match extension? (fileName path.toList) with
  | some ext =>
    let ext := ext.map Char.toLower
    if ext = "parquet".toList then some .parquet
    else if ext = "csv".toList then some .csv
    else none
  | none => none

end ArchiveFile

/-- An archive that has been opened. -/
structure Archive where
  format : ArchiveFile.Format
  /-- The frame that it holds; only now may it turn out that there is none. -/
  frame : Except FrameError Frame

namespace Archive

/-- Opens a file. -/
def load (file : ArchiveFile) : Except ArchiveError Archive :=
  match file.content with
  | none => .error (.notFound file.path)
  | some content =>
    match ArchiveFile.format? file.path, content with
    | none, _ => .error (.unsupportedFormat file.path)
    | some .parquet, .frame f => .ok ⟨.parquet, .ok f⟩
    | some .parquet, .text .. => .ok ⟨.parquet, .error .unreadable⟩
    | some .csv, .frame _ => .error (.csvRead file.path)
    | some .csv, .text s partSize =>
      match Csv.frame? partSize s with
      | some f => .ok ⟨.csv, .ok f⟩
      | none => .error (.csvRead file.path)

/-- The rows with `lower < time ≤ upper`, which of a stored frame may not have to be read. -/
def window (a : Archive) (lower upper : Int64) : Except FrameError Frame := do
  match a.format with
  | .parquet => (← a.frame).storedWindow lower upper
  | .csv => (← a.frame).window lower upper

end Archive

end Meteogram
