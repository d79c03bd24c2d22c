import Meteogram.Archive.Frame
import Meteogram.Text.Digits

/-!
# What can be wrong with an archive
-/

namespace Meteogram

inductive ArchiveError where
  | notFound (path : String)
  | unsupportedFormat (path : String)
  | csvRead (path : String)
  | columnNotFound (name : String)
  /-- The type of the time column cannot hold times. -/
  | unsupportedTimeColumn (name : String) (type : CellType)
  /-- The time of a row is missing or denotes no time. -/
  | invalidTime (row : Nat)
  | processing (cause : FrameError)
deriving DecidableEq, Repr

namespace FrameError

def message : FrameError → String
  | missingColumn name => "column '" ++ name ++ "' not found"
  | severalColumns name => "'" ++ name ++ "' stands for several columns"
  | unsuitableColumn name type => "column '" ++ name ++ "' of type " ++ type.name ++ " is not suitable"
  | unreadable => "the file does not hold a frame"

end FrameError

namespace ArchiveError

def message : ArchiveError → String
  | notFound path => "Archive file '" ++ path ++ "' cannot be opened"
  | unsupportedFormat path => "Archive file '" ++ path ++ "' is neither .parquet nor .csv"
  | csvRead path => "Failed to read CSV archive '" ++ path ++ "'"
  | columnNotFound name => "Required column '" ++ name ++ "' not found in DataFrame"
  | unsupportedTimeColumn name type =>
    "Column '" ++ name ++ "' of type " ++ type.name ++ " cannot be used as record time"
  | invalidTime row => "Row " ++ Text.decimal row ++ " has no usable time"
  | processing cause => "Failed processing DataFrame: " ++ cause.message

end ArchiveError

end Meteogram
