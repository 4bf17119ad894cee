/-!
# Value/Moment — dates and times

Moments belong to the library of values, and so does their text, which that library writes for debugging:
the date as `YYYY-MM-DD`, the time as `HH:MM:SS` with nine more digits for the nanoseconds if there are any,
and the offset as `Z` or as signed hours and minutes.
-/

namespace Stencil

/-- A day of the calendar. -/
structure Date where
  year : Int
  month : Nat
  day : Nat
deriving DecidableEq

/-- A time of day. -/
structure Clock where
  hour : Nat
  minute : Nat
  second : Nat
  nanos : Nat
deriving DecidableEq

/-- A date, a time, both, or both with an offset in minutes. -/
inductive Moment where
  | date (date : Date)
  | time (clock : Clock)
  | dateTime (date : Date) (clock : Clock)
  | zoned (date : Date) (clock : Clock) (offset : Int)
deriving DecidableEq

namespace Moment

/-- A number in at least `width` digits. -/
def padded (width n : Nat) : List Char :=
  let digits := Nat.toDigits 10 n
  List.replicate (width - digits.length) '0' ++ digits

/-- A year in at least four places, of which a sign takes one. -/
def yearText (year : Int) : List Char :=
  if year < 0 then '-' :: padded 3 year.natAbs else padded 4 year.natAbs

/-- A date as `YYYY-MM-DD`. -/
def dateText (d : Date) : List Char :=
  yearText d.year ++ '-' :: padded 2 d.month ++ '-' :: padded 2 d.day

/-- A time as `HH:MM:SS`, and its nanoseconds if it has any. -/
def clockText (c : Clock) : List Char :=
  padded 2 c.hour ++ ':' :: padded 2 c.minute ++ ':' :: padded 2 c.second
    ++ if c.nanos = 0 then [] else '.' :: padded 9 c.nanos

/-- An offset as `Z`, or as signed hours and minutes. -/
def offsetText (minutes : Int) : List Char :=
  if minutes = 0 then ['Z']
  else (if minutes < 0 then '-' else '+')
    :: (padded 2 (minutes.natAbs / 60) ++ ':' :: padded 2 (minutes.natAbs % 60))

/-- **The debug text of a moment.** -/
def text : Moment → String
  | date d => String.ofList (dateText d)
  | time c => String.ofList (clockText c)
  | dateTime d c => String.ofList (dateText d ++ 'T' :: clockText c)
  | zoned d c offset => String.ofList (dateText d ++ 'T' :: clockText c ++ offsetText offset)

end Moment

end Stencil
