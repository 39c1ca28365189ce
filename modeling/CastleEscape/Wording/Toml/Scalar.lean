import CastleEscape.Wording.Datum
import CastleEscape.Wording.Toml.Text

/-!
# Numbers, dates and truth values of a TOML document

Integers fit into 64 bits with a sign; decimals may not be so large as to be rounded to infinity;
dates are days of the calendar, and times of day are times of a clock, on which a sixtieth second
is allowed.
-/

namespace CastleEscape.Toml

/-! ## Digits -/

/-- More digits of one kind, each with at most one underscore before it. -/
def moreDigits (isDigit : Char → Bool) : List Char → List Char × List Char
  | c :: d :: rest =>
    if isDigit c then
      let (ds, after) := moreDigits isDigit (d :: rest)
      (c :: ds, after)
    else if c = '_' ∧ isDigit d then
      let (ds, after) := moreDigits isDigit rest
      (d :: ds, after)
    else ([], c :: d :: rest)
  | [c] => if isDigit c then ([c], []) else ([], [c])
  | [] => ([], [])

/-- Digits of one kind, of which any two may have an underscore between them. -/
def digits (isDigit : Char → Bool) : List Char → Option (List Char × List Char)
  | [] => none
  | c :: rest =>
    if isDigit c then
      let (ds, after) := moreDigits isDigit rest
      some (c :: ds, after)
    else none

def valueIn (base : Nat) (ds : List Char) : Nat :=
  ds.foldl (fun sum d => base * sum + (hexDigit? d).getD 0) 0

/-- A number that begins with zero has no other digit. -/
def decimalDigits : List Char → Option (List Char × List Char)
  | '0' :: rest => some (['0'], rest)
  | cs => digits Char.isDigit cs

/-- Exactly `count` digits, as a number. -/
def fixed (count : Nat) (cs : List Char) : Option (Nat × List Char) :=
  let ds := cs.take count
  if ds.length = count ∧ ds.all Char.isDigit then some (valueIn 10 ds, cs.drop count) else none

def sign : List Char → Bool × List Char
  | '-' :: rest => (true, rest)
  | '+' :: rest => (false, rest)
  | cs => (false, cs)

/-! ## Integers -/

def fitsInteger (value : Int) : Bool :=
  -0x8000000000000000 ≤ value && value ≤ 0x7FFFFFFFFFFFFFFF

def radixDigits : List Char → Option (Nat × (Char → Bool) × List Char)
  | '0' :: 'x' :: rest => some (16, fun c => (hexDigit? c).isSome, rest)
  | '0' :: 'o' :: rest => some (8, fun c => '0' ≤ c && c ≤ '7', rest)
  | '0' :: 'b' :: rest => some (2, fun c => c == '0' || c == '1', rest)
  | _ => none

def integer (cs : List Char) : Option (Datum × List Char) := do
  match radixDigits cs with
  | some (base, isDigit, rest) =>
    let (ds, rest) ← digits isDigit rest
    let value : Int := valueIn base ds
    if fitsInteger value then return (.integer value, rest) else none
  | none =>
    let (negative, rest) := sign cs
    let (ds, rest) ← decimalDigits rest
    let value : Int := if negative then -(valueIn 10 ds : Int) else valueIn 10 ds
    if fitsInteger value then return (.integer value, rest) else none

/-! ## Decimals -/

def fraction : List Char → Option (List Char × List Char)
  | '.' :: rest => digits Char.isDigit rest
  | _ => none

def exponent : List Char → Option (Int × List Char)
  | c :: rest => do
    if c = 'e' ∨ c = 'E' then
      let (negative, rest) := sign rest
      let (ds, rest) ← digits Char.isDigit rest
      return (if negative then -(valueIn 10 ds : Int) else valueIn 10 ds, rest)
    else none
  | [] => none

/-- Whether a mantissa with a power of ten is beyond the largest number of 53 binary digits with a
binary exponent below 1024 by at least half a step. -/
def overflows (mantissa : Nat) (power : Int) : Bool :=
  let bound := Nat.pow 2 1024 - Nat.pow 2 970
  let length : Int := (Nat.toDigits 10 mantissa).length
  if mantissa = 0 ∨ length + power < 300 then false
  else if length + power > 400 then true
  else if power < 0 then bound * Nat.pow 10 (-power).toNat ≤ mantissa
  else bound ≤ mantissa * Nat.pow 10 power.toNat

def special : List Char → Option (List Char)
  | 'i' :: 'n' :: 'f' :: rest => some rest
  | 'n' :: 'a' :: 'n' :: rest => some rest
  | _ => none

/-- What `after` leaves over of `cs` has been read. -/
def taken (cs after : List Char) : String :=
  .ofList (cs.take (cs.length - after.length))

def decimal (cs : List Char) : Option (Datum × List Char) := do
  let (negative, rest) := sign cs
  match special rest with
  | some after => return (.decimal (taken cs after), after)
  | none =>
    let (whole, rest) ← decimalDigits rest
    let part := fraction rest
    let (part, rest) := part.getD ([], rest)
    let power := exponent rest
    if part.isEmpty ∧ power.isNone then none
    else
      let (power, rest) := power.getD (0, rest)
      if !negative && overflows (valueIn 10 (whole ++ part)) (power - part.length) then none
      else return (.decimal (taken cs rest), rest)

/-! ## Dates -/

def isLeapYear (year : Nat) : Bool :=
  year % 4 == 0 && (year % 100 != 0 || year % 400 == 0)

def daysIn (year month : Nat) : Nat :=
  if month = 2 then if isLeapYear year then 29 else 28
  else if month = 4 ∨ month = 6 ∨ month = 9 ∨ month = 11 then 30
  else 31

def expect (c : Char) : List Char → Option (List Char)
  | d :: rest => if d = c then some rest else none
  | [] => none

/-- The characters after a day of the calendar. -/
def afterDay? (cs : List Char) : Option (List Char) := do
  let (year, cs) ← fixed 4 cs
  let cs ← expect '-' cs
  let (month, cs) ← fixed 2 cs
  let cs ← expect '-' cs
  let (day, cs) ← fixed 2 cs
  if 1 ≤ month ∧ month ≤ 12 ∧ 1 ≤ day ∧ day ≤ daysIn year month then return cs else none

/-- The characters after hours and minutes. -/
def afterMinute? (cs : List Char) : Option (List Char) := do
  let (hour, cs) ← fixed 2 cs
  let cs ← expect ':' cs
  let (minute, cs) ← fixed 2 cs
  if hour ≤ 23 ∧ minute ≤ 59 then return cs else none

/-- The characters after a time of day. -/
def afterTime? (cs : List Char) : Option (List Char) := do
  let cs ← afterMinute? cs
  let cs ← expect ':' cs
  let (second, cs) ← fixed 2 cs
  if second ≤ 60 then
    match cs with
    | '.' :: rest =>
      if rest.head?.any Char.isDigit then return rest.dropWhile Char.isDigit else return cs
    | _ => return cs
  else none

/-- The characters after the distance from universal time, if there is one. -/
def afterOffset (cs : List Char) : List Char :=
  match cs with
  | c :: rest =>
    if c = 'Z' ∨ c = 'z' then rest
    else if c = '+' ∨ c = '-' then (afterMinute? rest).getD cs
    else cs
  | [] => cs

/-- The characters after the time of day that may follow a day. -/
def afterDayTime (cs : List Char) : List Char :=
  match cs with
  | c :: rest =>
    if c = 'T' ∨ c = 't' ∨ c = ' ' then ((afterTime? rest).map afterOffset).getD cs else cs
  | [] => cs

def date (cs : List Char) : Option (Datum × List Char) := do
  let after ← ((afterDay? cs).map afterDayTime).or (afterTime? cs)
  return (.date (taken cs after), after)

/-! ## Truth values -/

def bool : List Char → Option (Datum × List Char)
  | 't' :: 'r' :: 'u' :: 'e' :: rest => some (.bool true, rest)
  | 'f' :: 'a' :: 'l' :: 's' :: 'e' :: rest => some (.bool false, rest)
  | _ => none

/-- Any value that holds no other value. -/
def scalar (cs : List Char) : Option (Datum × List Char) :=
  ((quoted cs).map fun (text, rest) => (.text (.ofList text), rest)).or
    ((bool cs).or ((date cs).or ((decimal cs).or (integer cs))))

end CastleEscape.Toml
