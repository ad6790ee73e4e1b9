import StarterCpp.Library.Text
import StarterCpp.PubSub.FragmentHeader

/-!
# The system clock

A reading is the number of nanoseconds since the epoch.  The application uses its
seconds, its milliseconds and its ISO 8601 text.
-/

namespace StarterCpp
namespace Omniscope

open PubSub Text

/-- A reading in whole milliseconds; the conversion truncates. -/
def epochMs (now : Int64) : Int64 :=
  now / 1000000

/-- A reading in whole seconds. -/
def epochSec (now : Int64) : Int64 :=
  now / 1000000000

/-- The fields of `std::tm` that are printed. -/
structure CalendarTime where
  year : Int
  month : Int
  day : Int
  hour : Int
  minute : Int
  second : Int
  deriving DecidableEq, Repr

/-- `gmtime_r`: the calendar time of a number of seconds since the epoch.  Years
are counted from March, in eras of 400 of them. -/
def gmtime (seconds : Int) : CalendarTime :=
  let days := seconds.fdiv 86400 + 719468
  let secondOfDay := seconds.fmod 86400
  let era := days.fdiv 146097
  let dayOfEra := days.fmod 146097
  let yearOfEra :=
    (dayOfEra - dayOfEra / 1460 + dayOfEra / 36524 - dayOfEra / 146096) / 365
  let dayOfYear := dayOfEra - (365 * yearOfEra + yearOfEra / 4 - yearOfEra / 100)
  let monthFromMarch := (5 * dayOfYear + 2) / 153
  let month := if monthFromMarch < 10 then monthFromMarch + 3 else monthFromMarch - 9
  { year := yearOfEra + era * 400 + (if month ≤ 2 then 1 else 0)
    month := month
    day := dayOfYear - (153 * monthFromMarch + 2) / 5 + 1
    hour := secondOfDay / 3600
    minute := secondOfDay % 3600 / 60
    second := secondOfDay % 60 }

/-- The text of a reading, with milliseconds. -/
def timestamp (now : Int64) : ByteString :=
  let time := gmtime (epochSec now).toInt
  let ms := epochMs now % 1000
  padded 4 time.year ++ ascii "-" ++ padded 2 time.month ++ ascii "-" ++
    padded 2 time.day ++ ascii "T" ++ padded 2 time.hour ++ ascii ":" ++
    padded 2 time.minute ++ ascii ":" ++ padded 2 time.second ++ ascii "." ++
    padded 3 ms.toInt ++ ascii "Z"

example : timestamp 1709210096007000000 = ascii "2024-02-29T12:34:56.007Z" := by
  decide

end Omniscope
end StarterCpp
