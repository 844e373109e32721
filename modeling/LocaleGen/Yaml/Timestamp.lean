import LocaleGen.Calendar
import LocaleGen.Unicode.Basic
import LocaleGen.Yaml.Cursor

/-!
# Timestamps

A date, or a date with a time and perhaps its distance from universal time. `Timestamp.parse?` reads
the spelling and `Timestamp.check` asks whether the numbers make sense.
-/

namespace LocaleGen.Yaml

structure TimeOfDay where
  hour : Nat
  minute : Nat
  second : Nat
  /-- The sign, the hours and the minutes of the distance from universal time. -/
  offset : Option (Bool × Nat × Nat)

/-- A date with or without a time. -/
structure Timestamp where
  year : Nat
  month : Nat
  day : Nat
  time : Option TimeOfDay

namespace Timestamp

def readNumber (least most : Nat) (t : Text) : Option (Nat × Text) :=
  let digits := (t.take most).takeWhile CodePoint.isDigit
  if digits.length < least then none
  else (Text.toNat? digits).map fun n => (n, t.drop digits.length)

def readMark (mark : Char) (t : Text) : Option Text :=
  match t with
  | c :: rest => if c = CodePoint.ofChar mark then some rest else none
  | [] => none

/-- A distance from universal time, which has to be the whole text. -/
def readOffset (t : Text) : Option (Option (Bool × Nat × Nat)) :=
  match t.dropWhile isBlank with
  | [] => if t = [] then some none else none
  | c :: rest =>
    if c = 'Z' then (if rest = [] then some none else none)
    else if c = '-' || c = '+' then do
      let (hours, rest) ← readNumber 1 2 rest
      if rest = [] then some (some (c = '-', hours, 0))
      else
        let (minutes, rest) ← readNumber 2 2 (← readMark ':' rest)
        if rest = [] then some (some (c = '-', hours, minutes)) else none
    else none

/-- A time of day after the mark between it and the date. -/
def readTime (t : Text) : Option TimeOfDay := do
  let (hour, t) ← readNumber 1 2 t
  let (minute, t) ← readNumber 2 2 (← readMark ':' t)
  let (second, t) ← readNumber 2 2 (← readMark ':' t)
  let t :=
    match readMark '.' t with
    | some rest => rest.dropWhile CodePoint.isDigit
    | none => t
  some ⟨hour, minute, second, ← readOffset t⟩

/-- What follows the mark between a date and a time. -/
def afterDate (t : Text) : Option Text :=
  match t with
  | c :: rest =>
    if c = 'T' || c = 't' then some rest
    else if isBlank c then some (rest.dropWhile isBlank) else none
  | [] => none

def parse? (t : Text) : Option Timestamp := do
  let (year, rest) ← readNumber 4 4 t
  let (month, rest) ← readNumber 1 2 (← readMark '-' rest)
  let (day, rest) ← readNumber 1 2 (← readMark '-' rest)
  if rest = [] then some ⟨year, month, day, none⟩
  else some ⟨year, month, day, some (← readTime (← afterDate rest))⟩

/-- Whether a text without a tag is taken for a timestamp. A date without a time needs all of its
digits. -/
def isPlain (t : Text) : Bool :=
  match parse? t with
  | some stamp => stamp.time.isSome || t.length = 10
  | none => false

/-! ## Sense -/

def describeOffset (west : Bool) (hours minutes : Nat) : Text :=
  let total : Int := hours * 3600 + minutes * 60
  let signed := if west then -total else total
  let days := signed / 86400
  let seconds := signed % 86400
  let part (name : Text) (n : Int) : List Text :=
    if n = 0 then [] else [name ++ "=" ++ Text.ofInt n]
  "datetime.timedelta(" ++ Text.join ", " (part "days" days ++ part "seconds" seconds) ++ ")"

def timeFault? (t : TimeOfDay) : Option Text :=
  if 24 ≤ t.hour then some "hour must be in 0..23"
  else if 60 ≤ t.minute then some "minute must be in 0..59"
  else if 60 ≤ t.second then some "second must be in 0..59"
  else none

/-- What is wrong with a distance from universal time. -/
def offsetFault? (t : TimeOfDay) : Option Text :=
  match t.offset with
  | some (west, hours, minutes) =>
    if 86400 ≤ hours * 3600 + minutes * 60 then
      some
        ("offset must be a timedelta strictly between -timedelta(hours=24) and " ++
          "timedelta(hours=24), not " ++ describeOffset west hours minutes ++ ".")
    else none
  | none => none

def dateFault? (t : Timestamp) : Option Text :=
  if t.year = 0 then some "year 0 is out of range"
  else if t.month = 0 ∨ 12 < t.month then some "month must be in 1..12"
  else if (Date.ofParts? t.year t.month t.day).isNone then some "day is out of range for month"
  else none

def check (t : Timestamp) : Except Fault Unit :=
  match (t.time.bind offsetFault?).or ((dateFault? t).or (t.time.bind timeFault?)) with
  | some detail => .error (.value detail)
  | none => .ok ()

end Timestamp

end LocaleGen.Yaml
