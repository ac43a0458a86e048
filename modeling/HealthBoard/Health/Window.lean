/-
Windows of whole hours.

Everything that is shown is shown by the hour, so a window is a range of hour buckets, closed
below and open above.  A window exists only if it can be shown: both ends on the hour, at least
one bucket, and not more buckets than a grid can hold.  Those conditions are part of the type.

The ends are 64-bit timestamps.  A bound that would lie outside is clamped to the range, and since
neither end of the range is on the hour, a clamped bound is never taken for a window.
-/
import HealthBoard.Decimal.Integer

namespace HealthBoard

/-- Seconds in an hour. -/
def hourSeconds : Int := 3600

/-- The most hours a window may have. -/
def greatestSpan : Int := 720

/-- The hours shown if nobody says how many. -/
def defaultHours : Int64 := 24

/-- The start of the hour that a timestamp falls into. -/
def floorToHour (ts : Int64) : Int64 := Int64.ofInt (ts.toInt / hourSeconds * hourSeconds)

/-- Why two bounds make no window. -/
inductive WindowFault where
  | notAligned (bound : Int64)
  | empty (start stop : Int64)
  | tooWide (start stop : Int64)
  deriving DecidableEq

def WindowFault.message : WindowFault → String
  | .notAligned bound =>
    "hour bound " ++ Decimal.text bound.toInt ++ " is not aligned to a whole hour"
  | .empty start stop =>
    "end hour " ++ Decimal.text stop.toInt ++ " must be after start hour " ++
      Decimal.text start.toInt
  | .tooWide start stop =>
    "window " ++ Decimal.text start.toInt ++ ".." ++ Decimal.text stop.toInt ++
      " spans more than " ++ Decimal.text greatestSpan ++ " hours"

/-- A range of hour buckets: from `start`, up to but not including `stop`. -/
structure HourWindow where
  start : Int64
  stop : Int64
  start_aligned : start.toInt % hourSeconds = 0
  stop_aligned : stop.toInt % hourSeconds = 0
  start_lt_stop : start.toInt < stop.toInt
  span_le : stop.toInt - start.toInt ≤ greatestSpan * hourSeconds

namespace HourWindow

/-- The window between two bounds.  Alignment is looked at first, the start before the end. -/
def between (start stop : Int64) : Except WindowFault HourWindow :=
  if hs : start.toInt % hourSeconds = 0 then
    if ht : stop.toInt % hourSeconds = 0 then
      if hlt : start.toInt < stop.toInt then
        if hle : stop.toInt - start.toInt ≤ greatestSpan * hourSeconds then
          .ok ⟨start, stop, hs, ht, hlt, hle⟩
        else .error (.tooWide start stop)
      else .error (.empty start stop)
    else .error (.notAligned stop)
  else .error (.notAligned start)

/-- So many hours, the last of them the one that `now` falls into. -/
def lastHours (now hours : Int64) : Except WindowFault HourWindow :=
  let stop := clamp ((floorToHour now).toInt + hourSeconds)
  let span := clamp (hours.toInt * hourSeconds)
  between (clamp (stop.toInt - span.toInt)) stop

/-- The smallest window that both timestamps fall into. -/
def covering (first last : Int64) : Except WindowFault HourWindow :=
  between (floorToHour first) (clamp ((floorToHour last).toInt + hourSeconds))

/-- How many hours the window has. -/
def hourCount (w : HourWindow) : Nat := ((w.stop.toInt - w.start.toInt) / hourSeconds).toNat

/-- Whether a timestamp falls into the window. -/
def contains (w : HourWindow) (ts : Int64) : Bool :=
  w.start.toInt ≤ ts.toInt && ts.toInt < w.stop.toInt

/-- The starts of all hours of the window, ascending. -/
def hours (w : HourWindow) : List Int64 :=
  (List.range w.hourCount).map fun (i : Nat) =>
    Int64.ofInt (w.start.toInt + hourSeconds * (i : Int))

end HourWindow
end HealthBoard
