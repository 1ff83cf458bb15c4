import RowTriples.Time.Timestamp
/-!
# Timestamps as text

Years from 0 to 9999 have four digits; all others carry a sign and have at least four. A fraction is
left out where it is zero and otherwise has three, six or nine digits. A leap second is written as
second sixty.
-/

namespace RowTriples.Time

/-- A number in decimal, filled up with zeros to at least `width` digits. -/
def padded (width n : Nat) : List Char :=
  let ds := Nat.toDigits 10 n
  List.replicate (width - ds.length) '0' ++ ds

def yearText (year : Int) : List Char :=
  if 0 ≤ year ∧ year ≤ 9999 then padded 4 year.natAbs
  else (if year < 0 then '-' else '+') :: padded 4 year.natAbs

/-- The fraction of a second, with its point. -/
def fractionText (nano : Nat) : List Char :=
  let rest := nano % nanosPerSecond
  if rest = 0 then []
  else if rest % 1000000 = 0 then '.' :: padded 3 (rest / 1000000)
  else if rest % 1000 = 0 then '.' :: padded 6 (rest / 1000)
  else '.' :: padded 9 rest

def Date.chars (d : Date) : List Char :=
  yearText d.year ++ '-' :: padded 2 d.month ++ '-' :: padded 2 d.day

/-- A time of day without the fraction of its second. -/
def Clock.chars (c : Clock) : List Char :=
  padded 2 c.hour ++ ':' :: padded 2 c.minute ++ ':' ::
    padded 2 (c.second + c.nano / nanosPerSecond)

def offsetText (seconds : Int) : List Char :=
  let minutes := seconds.natAbs / 60
  (if seconds < 0 then '-' else '+') :: padded 2 (minutes / 60) ++ ':' :: padded 2 (minutes % 60)

namespace Timestamp

variable (t : Timestamp)

def chars : List Char :=
  t.date.chars ++ 'T' :: t.clock.chars ++ fractionText t.clock.nano

def text : String :=
  String.ofList t.chars

/-- The text of a wall clock time with its offset from universal time. -/
def zonedText (offset : Int) : String :=
  String.ofList (t.chars ++ offsetText offset)

/-- The text with a space between date and time and without fraction. -/
def spacedText : String :=
  String.ofList (t.date.chars ++ ' ' :: t.clock.chars)

end Timestamp

end RowTriples.Time
