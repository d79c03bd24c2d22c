import Meteogram.Dataset

/-!
# Why records cannot be laid on an axis
-/

namespace Meteogram

/-- A reason for which records cannot be aligned. Positions count records from 0. -/
inductive AlignError where
  | emptyInput
  | unsupportedPeriod (text : String)
  | invalidIndexRange (text : String)
  /-- No record carries the field. -/
  | unknownField (field : String)
  /-- A bound of the window is no instant of the calendar. -/
  | invalidWindow (bound : String)
  /-- The time of a record has no bucket on the axis. -/
  | invalidTime (position : Nat)
  | unsorted (position : Nat)
  | duplicateBucket (position : Nat) (label : String)
  | indexOutOfRange (position index first last : Nat)
  /-- The clock of the axis leaves the calendar at a time of the window or of a record. This is no
  error that is answered: the program stops. -/
  | clockOverflow
deriving DecidableEq, Repr

namespace AlignError

def message : AlignError → String
  | emptyInput => "Cannot align an empty record sequence"
  | unsupportedPeriod text => Period.unsupported text
  | invalidIndexRange text => "Invalid index range: " ++ text
  | unknownField field => "Field '" ++ field ++ "' is not present on any record"
  | invalidWindow bound => "Window bound '" ++ bound ++ "' cannot be placed on this axis"
  | invalidTime position =>
    "Record " ++ Text.decimal position ++ " has a time that cannot be placed on this axis"
  | unsorted position =>
    "Record " ++ Text.decimal position ++
      " is earlier than the record before it; input must be sorted by time"
  | duplicateBucket position label =>
    "Record " ++ Text.decimal position ++ " falls in bucket " ++ label ++
      ", which an earlier record already filled"
  | indexOutOfRange position index first last =>
    "Record " ++ Text.decimal position ++ " has index " ++ Text.decimal index ++ ", outside of " ++
      Text.decimal first ++ "..=" ++ Text.decimal last
  | clockOverflow => Reading.overflowMessage

end AlignError

end Meteogram
