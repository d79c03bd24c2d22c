import Meteogram.Calendar.Date

/-!
# Instants on the wall clock

An instant is a number of seconds since 1970-01-01T00:00:00 on the clock at hand, and a fraction of
a second in nanoseconds. A leap second is written as the second 59 of its minute with a fraction of
at least one whole second, so it lies between that second and the next. Every instant is inside the
calendar of `Meteogram.Date`: an operation that would leave it answers `none`.
-/

namespace Meteogram

/-- The first second of the calendar. -/
def minSecond : Int := Date.minDay * 86400

/-- The last second of the calendar. -/
def maxSecond : Int := Date.maxDay * 86400 + 86399

/-- A point of time on the wall clock. -/
structure Instant where
  /-- Seconds since 1970-01-01T00:00:00. -/
  second : Int
  /-- Nanoseconds since the second began; a whole second or more in a leap second. -/
  nano : Nat
  inCalendar : minSecond ≤ second ∧ second ≤ maxSecond
  nano_lt : nano < 2000000000
  leap_at_59 : 1000000000 ≤ nano → second % 60 = 59
deriving DecidableEq, Repr

namespace Instant

/-- The instant with these parts, if it is in the calendar and a leap second ends its minute. -/
def ofParts? (second : Int) (nano : Nat) : Option Instant :=
  if h : (minSecond ≤ second ∧ second ≤ maxSecond) ∧ nano < 2000000000 ∧
      (1000000000 ≤ nano → second % 60 = 59) then
    some ⟨second, nano, h.1, h.2.1, h.2.2⟩
  else none

/-- The start of a second. -/
def ofSecond? (second : Int) : Option Instant := ofParts? second 0

/-- The first instant of the day with the given number. -/
def midnight? (dayNumber : Int) : Option Instant := ofSecond? (dayNumber * 86400)

@[simp] theorem ofParts?_self (t : Instant) : ofParts? t.second t.nano = some t := by
  simp [ofParts?, t.inCalendar, t.nano_lt]
  exact t.leap_at_59

theorem ofParts?_eq_some {second : Int} {nano : Nat} {t : Instant} :
    ofParts? second nano = some t ↔ t.second = second ∧ t.nano = nano := by
  constructor
  · intro h
    unfold ofParts? at h
    split at h
    · cases h; exact ⟨rfl, rfl⟩
    · cases h
  · rintro ⟨rfl, rfl⟩; simp

/-- Earlier seconds come first; within one second the smaller fraction. -/
instance : LT Instant :=
  ⟨fun a b => a.second < b.second ∨ (a.second = b.second ∧ a.nano < b.nano)⟩

instance : LE Instant :=
  ⟨fun a b => a.second < b.second ∨ (a.second = b.second ∧ a.nano ≤ b.nano)⟩

instance (a b : Instant) : Decidable (a < b) :=
  inferInstanceAs (Decidable (a.second < b.second ∨ (a.second = b.second ∧ a.nano < b.nano)))

instance (a b : Instant) : Decidable (a ≤ b) :=
  inferInstanceAs (Decidable (a.second < b.second ∨ (a.second = b.second ∧ a.nano ≤ b.nano)))

theorem lt_iff {a b : Instant} :
    a < b ↔ a.second < b.second ∨ (a.second = b.second ∧ a.nano < b.nano) := Iff.rfl

theorem le_iff {a b : Instant} :
    a ≤ b ↔ a.second < b.second ∨ (a.second = b.second ∧ a.nano ≤ b.nano) := Iff.rfl

/-- The number of the day an instant lies in. -/
def dayNumber (t : Instant) : Int := t.second / 86400

/-- Seconds since midnight. -/
def secondOfDay (t : Instant) : Nat := (t.second % 86400).toNat

def date (t : Instant) : Date := Date.ofDayNumber t.dayNumber

def hour (t : Instant) : Nat := t.secondOfDay / 3600

def minute (t : Instant) : Nat := t.secondOfDay / 60 % 60

/-- The second as a clock shows it: 60 in a leap second. -/
def clockSecond (t : Instant) : Nat := t.secondOfDay % 60 + t.nano / 1000000000

/-- The shown fraction of the shown second, in nanoseconds. -/
def fraction (t : Instant) : Nat := t.nano % 1000000000

/-- Moves an instant by whole seconds. Moving forward leaves a leap second from the second it
extends, moving back from the second after it. -/
def addSeconds? (t : Instant) (seconds : Int) : Option Instant :=
  if t.nano < 1000000000 then ofParts? (t.second + seconds) t.nano
  else if 0 < seconds then ofParts? (t.second + seconds) (t.nano - 1000000000)
  else if seconds < 0 then ofParts? (t.second + 1 + seconds) (t.nano - 1000000000)
  else some t

/-- Moves an instant by whole months, keeping the time of day. A day that the month does not have
becomes its last day. -/
def addMonths? (t : Instant) (months : Nat) : Option Instant :=
  let months := t.date.year * 12 + (t.date.month - 1 : Nat) + months
  let year := months / 12
  let month := (months % 12).toNat + 1
  let day := min t.date.day (Date.monthLength (Date.isLeap year) month)
  (Date.ofYmd? year month day).bind fun d =>
    ofParts? (d.dayNumber * 86400 + t.second % 86400) t.nano

end Instant

/-- What a wall clock makes of a moment. -/
inductive Reading where
  /-- The clock shows an instant. -/
  | shown (t : Instant)
  /-- The moment is outside the calendar. -/
  | outside
  /-- The moment is inside the calendar, but the instant that the clock would show is not. There is no
  such reading: a program that asks for it stops. -/
  | overflow
deriving DecidableEq, Repr

namespace Reading

/-- The instant that is shown, if there is one. -/
def instant? : Reading → Option Instant
  | shown t => some t
  | outside | overflow => none

/-- The instant that is shown, or what its lack comes to. -/
def orElse {ε : Type} (r : Reading) (outside overflow : ε) : Except ε Instant :=
  match r with
  | .shown t => .ok t
  | .outside => .error outside
  | .overflow => .error overflow

/-- The text with which a program stops at a clock that leaves the calendar. -/
def overflowMessage : String := "Local time out of range for `NaiveDateTime`"

end Reading

/-- Seconds by which a wall clock is ahead of UTC, less than a day either way. -/
structure Offset where
  seconds : Int
  lt_day : -86400 < seconds ∧ seconds < 86400
deriving DecidableEq, Repr

namespace Offset

def utc : Offset := ⟨0, by decide⟩

instance : Inhabited Offset := ⟨utc⟩

/-- The offset of so many seconds east of UTC. -/
def east? (seconds : Int) : Option Offset :=
  if h : -86400 < seconds ∧ seconds < 86400 then some ⟨seconds, h⟩ else none

/-- What a clock at this offset makes of the moment so many seconds after 1970-01-01T00:00:00Z. The
moment is looked up in the calendar in UTC before it is read on the clock. -/
def reading (offset : Offset) (epoch : Int) : Reading :=
  match Instant.ofSecond? epoch with
  | none => .outside
  | some t =>
    match Instant.ofSecond? (t.second + offset.seconds) with
    | some t => .shown t
    | none => .overflow

/-- The instant that a clock at this offset shows so many seconds after 1970-01-01T00:00:00Z, if it
shows one. -/
def instantOf? (offset : Offset) (epoch : Int) : Option Instant := (offset.reading epoch).instant?

end Offset

end Meteogram
