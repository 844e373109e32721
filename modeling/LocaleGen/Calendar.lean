import LocaleGen.Fault

/-!
# Calendar

A `Date` of the years 1 to 9999, kept as the number of its day, where the first day of the year 1
has number one. `ofParts?` and `parts` go from year, month and day to the number and back;
`previous?` and `back?` step towards the past and fail at the first day. `read` takes the forms of
ISO 8601: year, month and day, or year, week and day of the week, with hyphens between them or
without.
-/

namespace LocaleGen

/-- A day of the years 1 to 9999. -/
structure Date where
  number : Nat
  positive : 1 ≤ number
  bounded : number ≤ 3652059
  deriving DecidableEq

namespace Date

/-- Every fourth year, but of the full centuries only every fourth. -/
def isLeap (year : Nat) : Bool := year % 4 = 0 && (year % 100 ≠ 0 || year % 400 = 0)

def monthLength (year month : Nat) : Nat :=
  if month = 2 then (if isLeap year then 29 else 28)
  else if month = 4 ∨ month = 6 ∨ month = 9 ∨ month = 11 then 30
  else 31

def daysBeforeYear (year : Nat) : Nat :=
  let y := year - 1
  y * 365 + y / 4 - y / 100 + y / 400

def daysBeforeMonth (year month : Nat) : Nat :=
  ((List.range (month - 1)).map fun m => monthLength year (m + 1)).foldl (· + ·) 0

def ofNumber? (n : Nat) : Option Date :=
  if h : 1 ≤ n ∧ n ≤ 3652059 then some ⟨n, h.1, h.2⟩ else none

def ofParts? (year month day : Nat) : Option Date :=
  if 1 ≤ month ∧ month ≤ 12 ∧ 1 ≤ day ∧ day ≤ monthLength year month ∧ 1 ≤ year ∧ year ≤ 9999 then
    ofNumber? (daysBeforeYear year + daysBeforeMonth year month + day)
  else none

/-- The year of a day: the last one that starts before it, near the given guess. -/
def yearFrom (fuel guess n : Nat) : Nat :=
  match fuel with
  | 0 => guess
  | fuel + 1 => if n ≤ daysBeforeYear (guess + 1) then guess else yearFrom fuel (guess + 1) n

def monthFrom (fuel year month n : Nat) : Nat × Nat :=
  match fuel with
  | 0 => (month, n)
  | fuel + 1 =>
    if n ≤ monthLength year month then (month, n)
    else monthFrom fuel year (month + 1) (n - monthLength year month)

def parts (d : Date) : Nat × Nat × Nat :=
  let year := yearFrom 30 (d.number / 366 + 1) d.number
  let (month, day) := monthFrom 12 year 1 (d.number - daysBeforeYear year)
  (year, month, day)

def previous? (d : Date) : Option Date := ofNumber? (d.number - 1)

theorem number_previous? {d e : Date} (h : d.previous? = some e) : e.number = d.number - 1 := by
  simp only [previous?, ofNumber?] at h
  split at h
  · obtain rfl := Option.some.inj h
    rfl
  · cases h

def back? (d : Date) (days : Nat) : Option Date :=
  if days < d.number then ofNumber? (d.number - days) else none

def render (d : Date) : Text :=
  let (year, month, day) := d.parts
  Text.decimal 4 year ++ "-" ++ Text.decimal 2 month ++ "-" ++ Text.decimal 2 day

/-! ## Reading -/

def ofParts (year month day : Nat) : Except Fault Date :=
  if year = 0 ∨ 9999 < year then .error (.value ("year " ++ Text.ofNat year ++ " is out of range"))
  else if month = 0 ∨ 12 < month then .error (.value "month must be in 1..12")
  else
    match ofParts? year month day with
    | some d => .ok d
    | none => .error (.value "day is out of range for month")

def firstWeekday (year : Nat) : Nat := daysBeforeYear year % 7

def weekCount (year : Nat) : Nat :=
  if firstWeekday year = 3 ∨ (firstWeekday year = 2 ∧ isLeap year) then 53 else 52

/-- The number of the Monday of the first week of a year, which is the week with its first Thursday.
-/
def firstMonday (year : Nat) : Nat :=
  daysBeforeYear year + 1 + (if firstWeekday year ≤ 3 then 0 else 7) - firstWeekday year

def refuse {α : Type} (t : Text) : Except Fault α :=
  .error (.value ("Invalid isoformat string: " ++ t.quoted))

/-- The day of a year, a week and a day of the week, which the text `t` gives. There is no year
zero. -/
def ofWeek (t : Text) (year week day : Nat) : Except Fault Date :=
  if week = 0 ∨ weekCount year < week ∨ day = 0 ∨ 7 < day then refuse t
  else if year = 0 then .error (.value "month must be in 1..12")
  else
    match ofNumber? (firstMonday year + (week - 1) * 7 + (day - 1)) with
    | some d => .ok d
    | none => .error (.value "year 10000 is out of range")

def readDigits (count : Nat) (t : Text) : Option (Nat × Text) :=
  if (t.take count).length = count then
    (Text.toNat? (t.take count)).map fun n => (n, t.drop count)
  else none

def readHyphen (hasHyphens : Bool) (t : Text) : Option Text :=
  if hasHyphens then t.dropStart? "-" else some t

/-- Week and day of the week; without the latter it is Monday. -/
def readWeek (hasHyphens : Bool) (t : Text) : Option (Nat × Nat) := do
  let (week, t) ← readDigits 2 t
  if t.isEmpty then return (week, 1)
  else return (week, (← readDigits 1 (← readHyphen hasHyphens t)).1)

def readMonth (hasHyphens : Bool) (t : Text) : Option (Nat × Nat) := do
  let (month, t) ← readDigits 2 t
  return (month, (← readDigits 2 (← readHyphen hasHyphens t)).1)

/-- The day that a text stands for. Its length decides whether it can be one, and something may be
behind. -/
def read (t : Text) : Except Fault Date :=
  if t.any CodePoint.isSurrogate || (Utf8.encodeAll t).length ∉ [7, 8, 10] then refuse t
  else
    match readDigits 4 t with
    | none => refuse t
    | some (year, rest) =>
      let (hasHyphens, rest) :=
        ((rest.dropStart? "-").map fun rest => (true, rest)).getD (false, rest)
      match rest.dropStart? "W" with
      | some rest =>
        match readWeek hasHyphens rest with
        | some (week, day) => ofWeek t year week day
        | none => refuse t
      | none =>
        match readMonth hasHyphens rest with
        | some (month, day) => ofParts year month day
        | none => refuse t

end Date

/-- What a clock shows: the time as it is written into records, and the day. -/
structure Clock where
  time : Text
  today : Date

def Date.epoch : Nat := 719163

/-- What a clock shows so many seconds and microseconds after the start of 1970, by universal time;
none after the last day of the calendar. -/
def Clock.ofSeconds? (seconds micros : Nat) : Option Clock :=
  (Date.ofNumber? (Date.epoch + seconds / 86400)).map fun today =>
    let part (unit : Nat) : Text :=
      Text.decimal 2 (seconds / unit % (if unit = 3600 then 24 else 60))
    let fraction : Text := if micros = 0 then [] else "." ++ Text.decimal 6 micros
    ⟨today.render ++ "T" ++ part 3600 ++ ":" ++ part 60 ++ ":" ++ part 1 ++ fraction ++ "+00:00",
      today⟩

end LocaleGen
