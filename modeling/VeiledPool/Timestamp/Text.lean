import VeiledPool.Text.Written
import VeiledPool.Timestamp.Basic

/-! # Written forms of timestamps

On its own a timestamp is written by the digits of its parts, from the year
down, with a fraction of six digits unless it is zero and the zone as hours and
minutes. Inside a collection its parts are listed by name; seconds and fraction
are left out if nothing but zeros would follow.
-/

namespace VeiledPool

namespace Date

def text (date : Date) : String :=
  String.intercalate "-" ([(4, date.year), (2, date.month), (2, date.day)].map
    fun (width, value) => String.ofList (Text.paddedDigits 10 width value))

end Date

namespace Clock

/-- Zone as hours and minutes ahead or behind. -/
def zoneText (zone : Int) : String :=
  let sign := if zone < 0 then "-" else "+"
  let two (value : Nat) := String.ofList (Text.paddedDigits 10 2 value)
  sign ++ two (zone.natAbs / 60) ++ ":" ++ two (zone.natAbs % 60)

/-- Hours, minutes and seconds with colons, then fraction and zone. -/
def text (clock : Clock) : String :=
  let two (value : Nat) := String.ofList (Text.paddedDigits 10 2 value)
  let fraction :=
    if clock.microsecond = 0 then ""
    else "." ++ String.ofList (Text.paddedDigits 10 6 clock.microsecond)
  two clock.hour ++ ":" ++ two clock.minute ++ ":" ++ two clock.second ++ fraction
    ++ (clock.zone.map zoneText).getD ""

/-- Distance from universal time as whole days and the seconds beyond them. -/
def distanceShown (zone : Int) : String :=
  let days := Int.fdiv zone (24 * 60)
  let seconds := 60 * Int.fmod zone (24 * 60)
  let parts := (if days = 0 then [] else [s!"days={days}"])
    ++ (if seconds = 0 then [] else [s!"seconds={seconds}"])
  "datetime.timedelta(" ++ String.intercalate ", " parts ++ ")"

/-- Form of a zone inside a listing. -/
def zoneShown (zone : Int) : String :=
  if zone = 0 then "datetime.timezone.utc"
  else "datetime.timezone(" ++ distanceShown zone ++ ")"

/-- Parts of the time that a listing shows. -/
def shownParts (clock : Clock) : List String :=
  let small :=
    if clock.microsecond ≠ 0 then [clock.second, clock.microsecond]
    else if clock.second ≠ 0 then [clock.second]
    else []
  ([clock.hour, clock.minute] ++ small).map toString
    ++ (clock.zone.map fun zone => "tzinfo=" ++ zoneShown zone).toList

end Clock

namespace Timestamp

/-- Form of a timestamp inside a message or a collection. -/
def shown (stamp : Timestamp) : String :=
  let date := [stamp.date.year, stamp.date.month, stamp.date.day].map toString
  match stamp.clock with
  | none => "datetime.date(" ++ String.intercalate ", " date ++ ")"
  | some clock =>
    "datetime.datetime(" ++ String.intercalate ", " (date ++ clock.shownParts) ++ ")"

/-- Form of a timestamp on its own. -/
def plain (stamp : Timestamp) : String :=
  match stamp.clock with
  | none => stamp.date.text
  | some clock => stamp.date.text ++ " " ++ clock.text

end Timestamp

end VeiledPool
