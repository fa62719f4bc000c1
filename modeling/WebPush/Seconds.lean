import WebPush.Number.Double
/-!
# Seconds — clock readings and time limits

A count of seconds is an integer or a double. Tokens carry whole
seconds, so a double is cut off toward zero; an infinity and a NaN name
no second at all. The log shows the time of day.
-/

namespace WebPush

/-- A count of seconds. -/
inductive Seconds where
  | whole (count : Int)
  | real (count : Double)
deriving DecidableEq, Repr

/-- Why a count of seconds has no whole part. -/
inductive SecondsFault where
  | infinite
  | notANumber
deriving DecidableEq, Repr

/-- The wording of such a fault. -/
def SecondsFault.message : SecondsFault → String
  | .infinite => "cannot convert float infinity to integer"
  | .notANumber => "cannot convert float NaN to integer"

namespace Seconds

/-- The whole seconds of a count. -/
def toInt : Seconds → Except SecondsFault Int
  | .whole n => .ok n
  | .real x =>
    if x.isNaN then .error .notANumber
    else if x.isInfinite then .error .infinite
    else .ok x.truncate

/-- A second lies in the future of a clock reading. -/
def isBefore (now : Seconds) (second : Int) : Bool :=
  match now with
  | .whole n => n < second
  | .real x => x.isBelow second

/-- A number below one hundred in two digits. -/
def twoDigits (n : Nat) : String := (if n < 10 then "0" else "") ++ toString n

/-- The time of day of a clock reading since midnight of some day: hours,
minutes and seconds. -/
def timeOfDay (reading : Seconds) : String :=
  let second := (reading.toInt.toOption.getD 0 % 86400).toNat
  ":".intercalate
    [twoDigits (second / 3600), twoDigits (second / 60 % 60), twoDigits (second % 60)]

end Seconds

end WebPush
