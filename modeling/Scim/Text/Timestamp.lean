/-!
# Dates and times

The texts that a date-time attribute may hold.  There are three kinds: a *timestamp* with an offset from
universal time, in the strict form of RFC 3339; a *local date-time*, with `T` or a blank between its parts;
and a plain *date*.

The two kinds without offset are read leniently: blanks may stand before every number, a number may have
fewer digits than its place allows, and a year may have a sign and then any number of digits.  All kinds
denote a day that exists in the calendar and a second of that day, where a minute may have a leap second.
-/

namespace Scim.Timestamp

/-- Reads a value from the front of a text and gives the rest of the text. -/
abbrev Reader (α : Type) := StateT (List Char) Option α

/-! ## Elements -/

/-- The blanks that may stand before a number: those of the Unicode standard. -/
def isBlank (c : Char) : Bool :=
  let n := c.toNat
  (9 ≤ n && n ≤ 13) || n == 0x20 || n == 0x85 || n == 0xa0 || n == 0x1680
    || (0x2000 ≤ n && n ≤ 0x200a) || n == 0x2028 || n == 0x2029 || n == 0x202f || n == 0x205f
    || n == 0x3000

/-- Skips blanks. -/
def blanks : Reader Unit := fun cs => some ((), cs.dropWhile isBlank)

/-- Reads one of certain characters. -/
def oneOf (allowed : List Char) : Reader Char
  | c :: cs => if allowed.contains c then some (c, cs) else none
  | [] => none

/-- The number that decimal digits denote. -/
def ofDigits (digits : List Char) : Nat :=
  digits.foldl (fun n c => 10 * n + (c.toNat - 48)) 0

/-- Reads at least `least` and at most `most` digits. -/
def number (least most : Nat) : Reader Nat := fun cs =>
  let digits := (cs.take most).takeWhile Char.isDigit
  if least ≤ digits.length then some (ofDigits digits, cs.drop digits.length) else none

/-- Reads as many digits as there are, at least one. -/
def longNumber : Reader Nat := fun cs => number 1 cs.length cs

/-- Reads a fraction of a second, if a point stands next. -/
def fraction : Reader Unit
  | '.' :: cs => (longNumber cs).map fun (_, rest) => ((), rest)
  | cs => some ((), cs)

/-- Whether a reader reads a text to its end and its value passes a test. -/
def accepts {α : Type} (reader : Reader α) (valid : α → Bool) (text : String) : Bool :=
  match reader text.toList with
  | some (value, []) => valid value
  | _ => false

/-! ## The calendar -/

/-- A day, which may not exist. -/
structure Date where
  year : Int
  month : Nat
  day : Nat

/-- A second of a day, which may not exist. -/
structure Time where
  hour : Nat
  minute : Nat
  second : Nat

/-- Every fourth year is a leap year, but not every hundredth unless it is a four hundredth. -/
def isLeapYear (year : Int) : Bool := year % 4 == 0 && (year % 100 != 0 || year % 400 == 0)

/-- The number of days in a month. -/
def daysIn (year : Int) : Nat → Nat
  | 2 => if isLeapYear year then 29 else 28
  | 4 => 30
  | 6 => 30
  | 9 => 30
  | 11 => 30
  | _ => 31

/-- Whether a day exists.  The calendar covers the years from -262143 to 262142. -/
def Date.isValid (d : Date) : Bool :=
  (-262143 ≤ d.year && d.year ≤ 262142) && (1 ≤ d.month && d.month ≤ 12)
    && (1 ≤ d.day && d.day ≤ daysIn d.year d.month)

/-- Whether a second exists; second 60 is a leap second, and any minute may have one. -/
def Time.isValid (t : Time) : Bool := t.hour ≤ 23 && t.minute ≤ 59 && t.second ≤ 60

/-! ## Timestamps with an offset -/

/-- Reads a number of exactly two digits. -/
def twoDigits : Reader Nat := number 2 2

/-- Reads an offset from universal time: `Z`, or a sign with hours and minutes.  The sign may be a proper
minus sign. -/
def offset : Reader Bool := do
  if (← oneOf ['Z', 'z', '+', '-', '\u2212']).isAlpha then return true
  let hours ← twoDigits
  let _ ← oneOf [':']
  let minutes ← twoDigits
  return hours ≤ 23 && minutes ≤ 59

/-- Reads a timestamp with an offset; gives its day and second and whether its offset exists. -/
def instant : Reader (Date × Time × Bool) := do
  let year ← number 4 4
  let _ ← oneOf ['-']
  let month ← twoDigits
  let _ ← oneOf ['-']
  let day ← twoDigits
  let _ ← oneOf ['T', 't', ' ']
  let hour ← twoDigits
  let _ ← oneOf [':']
  let minute ← twoDigits
  let _ ← oneOf [':']
  let second ← twoDigits
  fraction
  let offsetExists ← offset
  return (⟨year, month, day⟩, ⟨hour, minute, second⟩, offsetExists)

/-- Whether a text is a timestamp with an offset. -/
def isInstant (text : String) : Bool :=
  accepts instant (fun (date, time, offsetExists) => date.isValid && time.isValid && offsetExists) text

/-! ## Local dates and times -/

/-- Reads a year: up to four digits, or a sign and any number of digits. -/
def year : Reader Int := do
  blanks
  fun
  | '-' :: cs => (longNumber cs).map fun (n, rest) => (-(n : Int), rest)
  | '+' :: cs => (longNumber cs).map fun (n, rest) => ((n : Int), rest)
  | cs => (number 1 4 cs).map fun (n, rest) => ((n : Int), rest)

/-- Reads a number of one or two digits after blanks. -/
def shortNumber : Reader Nat := do
  blanks
  number 1 2

/-- Reads a day. -/
def date : Reader Date := do
  let year ← year
  let _ ← oneOf ['-']
  let month ← shortNumber
  let _ ← oneOf ['-']
  let day ← shortNumber
  return ⟨year, month, day⟩

/-- Reads a second of a day. -/
def time : Reader Time := do
  let hour ← shortNumber
  let _ ← oneOf [':']
  let minute ← shortNumber
  let _ ← oneOf [':']
  let second ← shortNumber
  fraction
  return ⟨hour, minute, second⟩

/-- Reads a day and, after a separator, a second of that day. -/
def dateTime (separator : Reader Unit) : Reader (Date × Time) := do
  let date ← date
  separator
  return (date, ← time)

/-- Whether a day and a second exist. -/
def bothValid (value : Date × Time) : Bool := value.1.isValid && value.2.isValid

/-- Whether a text is a local date-time, its parts separated by `T` or by any run of blanks. -/
def isLocal (text : String) : Bool :=
  accepts (dateTime (oneOf ['T'] *> pure ())) bothValid text || accepts (dateTime blanks) bothValid text

/-- Whether a text is a plain date. -/
def isDate (text : String) : Bool := accepts date Date.isValid text

/-- Whether a text may stand in a date-time attribute. -/
def denotes (text : String) : Bool := isInstant text || isLocal text || isDate text

end Scim.Timestamp
