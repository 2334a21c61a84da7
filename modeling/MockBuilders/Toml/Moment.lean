import MockBuilders.Json.Numeral

/-! Dates and times of day, and the one text that each is written with. -/
namespace MockBuilders.Toml.Moment

/-- The value of digits, if there are exactly so many and nothing else. -/
def number? (count : Nat) (cs : List Char) : Option Nat :=
  if cs.length = count ∧ cs.all Char.isDigit then some (digitsValue cs) else none

def inRange (low high n : Nat) : Bool := decide (low ≤ n ∧ n ≤ high)

def isLeap (year : Nat) : Bool := year % 4 == 0 && (year % 100 != 0 || year % 400 == 0)

def daysIn (year month : Nat) : Nat :=
  if month = 2 then (if isLeap year then 29 else 28)
  else if month = 4 ∨ month = 6 ∨ month = 9 ∨ month = 11 then 30
  else 31

/-- Whether ten characters are a date of the calendar. -/
def isDate (cs : List Char) : Bool :=
  match cs with
  | [y, y', y'', y''', '-', m, m', '-', d, d'] =>
      match number? 4 [y, y', y'', y'''], number? 2 [m, m'], number? 2 [d, d'] with
      | some year, some month, some day =>
          inRange 1 12 month && inRange 1 (daysIn year month) day
      | _, _, _ => false
  | _ => false

/-- What times of day and distances from universal time may be. -/
structure Bounds where
  lastHour : Nat
  /-- Hours and minutes that a distance is written with. -/
  distanceHours : Nat
  distanceMinutes : Nat
  /-- Minutes that a distance comes to. -/
  distance : Nat

/-- Bounds of the moments in a document. -/
def Bounds.strict : Bounds := ⟨23, 23, 59, 1439⟩

/-- Bounds of moments that are given as strings. -/
def Bounds.loose : Bounds := ⟨24, 99, 99, 1440⟩

/-- Whether eight characters are a time of day; a minute may have a leap second. -/
def isTime (bounds : Bounds) (cs : List Char) : Bool :=
  match cs with
  | [h, h', ':', m, m', ':', s, s'] =>
      match number? 2 [h, h'], number? 2 [m, m'], number? 2 [s, s'] with
      | some hour, some minute, some second =>
          inRange 0 bounds.lastHour hour && inRange 0 59 minute && inRange 0 60 second
      | _, _, _ => false
  | _ => false

/-- Nine digits of a fraction, without zeros at the end; nothing is left of zero. -/
def fraction (digits : List Char) : List Char :=
  match ((digits.take 9).reverse.dropWhile (· == '0')).reverse with
  | [] => []
  | kept => '.' :: kept

/-- Two digits of a number below one hundred. -/
def twoDigits (n : Nat) : List Char := [Nat.digitChar (n / 10), Nat.digitChar (n % 10)]

/-- A distance from universal time, in minutes. -/
def distance (negative : Bool) (minutes : Nat) : List Char :=
  (if negative && minutes != 0 then '-' else '+') ::
    twoDigits (minutes / 60) ++ ':' :: twoDigits (minutes % 60)

/-- The distance from universal time: `Z`, or hours and minutes with a sign. -/
def distance? (bounds : Bounds) (cs : List Char) : Option (List Char) :=
  match cs with
  | [] => some []
  | ['Z'] | ['z'] => some ['Z']
  | [sign, h, h', ':', m, m'] =>
      match number? 2 [h, h'], number? 2 [m, m'] with
      | some hour, some minute =>
          if (sign = '+' ∨ sign = '-') ∧ hour ≤ bounds.distanceHours ∧
              minute ≤ bounds.distanceMinutes ∧ 60 * hour + minute ≤ bounds.distance then
            some (distance (sign == '-') (60 * hour + minute))
          else none
      | _, _ => none
  | _ => none

/-- A time of day with a fraction of its second, and what follows. -/
def time? (bounds : Bounds) (cs : List Char) : Option (List Char × List Char) :=
  if isTime bounds (cs.take 8) then
    match cs.drop 8 with
    | '.' :: rest =>
        (Numeral.digits? rest).map fun r => (cs.take 8 ++ fraction r.1, r.2)
    | rest => some (cs.take 8, rest)
  else none

/-- The text of a date, a time of day, or a date and a time of day. -/
def text? (bounds : Bounds) (cs : List Char) : Option (List Char) :=
  if isDate (cs.take 10) then
    match cs.drop 10 with
    | [] => some cs
    | c :: rest =>
        if c = 'T' ∨ c = 't' ∨ c = ' ' then
          match time? bounds rest with
          | some (time, zone) =>
              (distance? bounds zone).map fun z => cs.take 10 ++ 'T' :: time ++ z
          | none => none
        else none
  else
    match time? bounds cs with
    | some (time, []) => some time
    | _ => none

end MockBuilders.Toml.Moment
