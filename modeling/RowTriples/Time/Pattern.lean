import RowTriples.Text.Blank
import RowTriples.Decimal.Reader
import RowTriples.Time.Timestamp
/-!
# Reading timestamps by patterns

Tables spell timestamps in many ways. A pattern lists the parts of one way in order, and
`Pattern.read?` reads a whole text by it. `readInstant?` tries the internet format, then the other
patterns with an offset from universal time, those without one, and at last bare dates, which stand
for their midnight.
-/

namespace RowTriples.Time

inductive Field where
  | year
  | month
  | day
  | hour
  | minute
  | second
  deriving DecidableEq

/-- The number of digits that a field is usually written with. -/
def Field.width : Field → Nat
  | .year => 4
  | _ => 2

inductive Part where
  /-- A field with any number of digits up to its width, behind optional white space. A year with
  a sign may be longer. -/
  | number (field : Field)
  /-- A field with exactly as many digits as its width. -/
  | digits (field : Field)
  /-- An optional fraction of the second. -/
  | fraction
  /-- One of the given characters. -/
  | mark (characters : List Char)
  /-- White space, or nothing. -/
  | blanks
  /-- An offset from universal time in hours and minutes, which are separated by colons and white
  space or by nothing. -/
  | offset
  /-- An offset in which exactly one colon separates hours and minutes, or the letter for universal
  time itself. -/
  | strictOffset

/-- The parts of a way to write timestamps. -/
abbrev Pattern := List Part

/-- What has been read of a timestamp. -/
structure Fields where
  year : Int := 0
  month : Nat := 1
  day : Nat := 1
  hour : Nat := 0
  minute : Nat := 0
  second : Nat := 0
  nano : Nat := 0
  offset : Int := 0

namespace Fields

def set (fields : Fields) (field : Field) (value : Nat) : Fields :=
  match field with
  | .year => { fields with year := value }
  | .month => { fields with month := value }
  | .day => { fields with day := value }
  | .hour => { fields with hour := value }
  | .minute => { fields with minute := value }
  | .second => { fields with second := value }

/-- The timestamp with these fields. Second sixty is the leap second behind the last one. -/
def timestamp? (fields : Fields) : Option Timestamp := do
  let date ← Date.of? fields.year fields.month fields.day
  let (second, leap) := if fields.second = 60 then (59, nanosPerSecond) else (fields.second, 0)
  let clock ← Clock.of? fields.hour fields.minute second (leap + fields.nano)
  return ⟨date, clock⟩

end Fields

def skipBlanks (cs : List Char) : List Char :=
  cs.dropWhile Text.isBlank

/-- A number of at least `least` and at most `most` digits. -/
def readNumber? (least most : Nat) (cs : List Char) : Option (Nat × List Char) :=
  let ds := (cs.take most).takeWhile Char.isDigit
  if ds.length < least then none else some (Decimal.valueFrom 0 ds, cs.drop ds.length)

/-- A number of any length with at least one digit. -/
def readLongNumber? (cs : List Char) : Option (Nat × List Char) :=
  readNumber? 1 cs.length cs

/-- The digits of a fraction in nanoseconds; those behind the ninth are dropped. -/
def readNanos? (cs : List Char) : Option (Nat × List Char) :=
  let ds := cs.takeWhile Char.isDigit
  if ds.isEmpty then none
  else
    let kept := ds.take 9
    some (Decimal.valueFrom 0 kept * Nat.pow 10 (9 - kept.length), cs.dropWhile Char.isDigit)

/-- Hours and minutes behind the sign of an offset. -/
def readHoursAndMinutes? (separator? : List Char → Option (List Char)) (cs : List Char) :
    Option (Nat × List Char) := do
  let (hours, cs) ← readNumber? 2 2 cs
  let cs ← separator? cs
  let (minutes, cs) ← readNumber? 2 2 cs
  if minutes < 60 then some (3600 * hours + 60 * minutes, cs) else none

/-- An offset with its sign, which may be a hyphen or the minus sign proper. -/
def readOffset? (separator? : List Char → Option (List Char)) : List Char → Option (Int × List Char)
  | '+' :: cs => (readHoursAndMinutes? separator? cs).map fun (n, rest) => ((n : Int), rest)
  | '-' :: cs | '−' :: cs =>
    (readHoursAndMinutes? separator? cs).map fun (n, rest) => (-(n : Int), rest)
  | _ => none

/-- A field that may be shorter than its width. -/
def readField? (fields : Fields) (field : Field) (cs : List Char) :
    Option (Fields × List Char) :=
  let short := (readNumber? 1 field.width cs).map fun (n, rest) => (fields.set field n, rest)
  match field, cs with
  | .year, '-' :: cs =>
    (readLongNumber? cs).map fun (n, rest) => ({ fields with year := -(n : Int) }, rest)
  | .year, '+' :: cs =>
    (readLongNumber? cs).map fun (n, rest) => ({ fields with year := (n : Int) }, rest)
  | _, _ => short

def Part.read? (fields : Fields) (cs : List Char) : Part → Option (Fields × List Char)
  | .number field => readField? fields field (skipBlanks cs)
  | .digits field =>
    (readNumber? field.width field.width cs).map fun (n, rest) => (fields.set field n, rest)
  | .fraction =>
    match cs with
    | '.' :: cs => (readNanos? cs).map fun (n, rest) => ({ fields with nano := n }, rest)
    | cs => some (fields, cs)
  | .mark characters =>
    match cs with
    | c :: cs => if c ∈ characters then some (fields, cs) else none
    | [] => none
  | .blanks => some (fields, skipBlanks cs)
  | .offset =>
    let separator (cs : List Char) := some (cs.dropWhile fun c => c = ':' || Text.isBlank c)
    (readOffset? separator (skipBlanks cs)).map fun (n, rest) => ({ fields with offset := n }, rest)
  | .strictOffset =>
    let separator? : List Char → Option (List Char)
      | ':' :: cs => some cs
      | _ => none
    match cs with
    | 'Z' :: cs | 'z' :: cs => some (fields, cs)
    | cs => (readOffset? separator? cs).map fun (n, rest) => ({ fields with offset := n }, rest)

namespace Pattern

def readFrom? (fields : Fields) : Pattern → List Char → Option Fields
  | [], cs => if cs.isEmpty then some fields else none
  | part :: pattern, cs =>
    match part.read? fields cs with
    | some (fields, cs) => readFrom? fields pattern cs
    | none => none

def read? (pattern : Pattern) (cs : List Char) : Option Fields :=
  readFrom? {} pattern cs

/-- Year, month and day, separated by the given character. -/
def yearFirst (separator : Char) : Pattern :=
  [.number .year, .mark [separator], .number .month, .mark [separator], .number .day]

/-- Month, day and year, separated by slashes. -/
def monthFirst : Pattern :=
  [.number .month, .mark ['/'], .number .day, .mark ['/'], .number .year]

def minutes : Pattern :=
  [.number .hour, .mark [':'], .number .minute]

/-- A time of day down to an optional fraction of the second. -/
def fractions : Pattern :=
  minutes ++ [.mark [':'], .number .second, .fraction]

/-- The timestamps of the internet, all of whose fields have their full width. -/
def internet : Pattern :=
  [.digits .year, .mark ['-'], .digits .month, .mark ['-'], .digits .day, .mark ['T', 't', ' '],
    .digits .hour, .mark [':'], .digits .minute, .mark [':'], .digits .second, .fraction,
    .strictOffset]

/-- The way in which this library writes timestamps itself. -/
def written : Pattern :=
  yearFirst '-' ++ [.mark ['T']] ++ fractions

/-- The patterns that tell the offset from universal time. -/
def zoned : List Pattern :=
  [internet, yearFirst '-' ++ [.blanks] ++ fractions ++ [.offset]]

/-- The patterns of wall clock times, in the order in which they are tried. -/
def wallClock : List Pattern :=
  [written,
    yearFirst '-' ++ [.blanks] ++ fractions,
    yearFirst '-' ++ [.mark ['T']] ++ minutes,
    yearFirst '-' ++ [.blanks] ++ minutes,
    monthFirst ++ [.blanks] ++ fractions,
    monthFirst ++ [.blanks] ++ minutes]

def dates : List Pattern :=
  [yearFirst '-', monthFirst, yearFirst '/']

end Pattern

/-- The timestamp of a text that is written as this library writes them. -/
def Timestamp.read? (text : String) : Option Timestamp :=
  (Pattern.written.read? text.toList).bind Fields.timestamp?

/-- A point in time as it was written: a wall clock time, with the universal time if the offset was
told. -/
inductive Instant where
  | floating (wall : Timestamp)
  | zoned (wall : Timestamp) (offset : Int) (universal : Timestamp)
  deriving DecidableEq

/-- The universal time where it is known, else the time as written. -/
def Instant.universal : Instant → Timestamp
  | .floating wall => wall
  | .zoned _ _ universal => universal

/-- The instant of fields with an offset of less than a day. -/
def Fields.zoned? (fields : Fields) : Option Instant := do
  let wall ← fields.timestamp?
  if fields.offset.natAbs < 86400 then
    let universal ← Timestamp.ofSeconds? (wall.seconds - fields.offset) wall.clock.nano
    return .zoned wall fields.offset universal
  else none

/-- The instant that a text denotes, if it follows one of the patterns. -/
def readInstant? (text : String) : Option Instant :=
  let cs := Text.trim text.toList
  let readBy? (patterns : List Pattern) (instant? : Fields → Option Instant) : Option Instant :=
    patterns.findSome? fun pattern => (pattern.read? cs).bind instant?
  let floating? (fields : Fields) : Option Instant := fields.timestamp?.map .floating
  (readBy? Pattern.zoned Fields.zoned?).or <|
    (readBy? Pattern.wallClock floating?).or (readBy? Pattern.dates floating?)

end RowTriples.Time
