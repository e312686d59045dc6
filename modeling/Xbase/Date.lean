import Xbase.Number.Notation
import Xbase.Number.Reading
/-!
# Dates

Days of the Gregorian calendar from year 0 to year 9999, extended to the years before its adoption. A
stamp is a date written as eight digits: year, month and day without anything between them.
-/
namespace Xbase

def isLeapYear (year : Nat) : Bool := year % 4 = 0 && (year % 100 ≠ 0 || year % 400 = 0)

/-- The number of days of a month, and none if there is no such month. -/
def daysInMonth (year month : Nat) : Nat :=
  if month = 2 then (if isLeapYear year then 29 else 28)
  else if month = 4 ∨ month = 6 ∨ month = 9 ∨ month = 11 then 30
  else if 1 ≤ month ∧ month ≤ 12 then 31
  else 0

def IsDay (year month day : Nat) : Prop := year ≤ 9999 ∧ 1 ≤ day ∧ day ≤ daysInMonth year month

instance (year month day : Nat) : Decidable (IsDay year month day) :=
  inferInstanceAs (Decidable (_ ∧ _))

/-- A day of the calendar, in the years from 0 to 9999. -/
structure Date where
  year : Nat
  month : Nat
  day : Nat
  isDay : IsDay year month day
deriving DecidableEq, Repr

namespace Date

def of? (year month day : Nat) : Option Date :=
  if h : IsDay year month day then some ⟨year, month, day, h⟩ else none

def order (a b : Date) : Ordering :=
  (compare a.year b.year).then ((compare a.month b.month).then (compare a.day b.day))

/-- A number in a given count of digits, with zeros in front. -/
def padded (width n : Nat) : List Char :=
  let digits := Number.natText n
  List.replicate (width - digits.length) '0' ++ digits

def stamp (d : Date) : List Char := padded 4 d.year ++ padded 2 d.month ++ padded 2 d.day

def ofStamp? (s : List Char) : Option Date :=
  if s.length = 8 then do
    let year ← Number.natOfText? (s.take 4)
    let month ← Number.natOfText? ((s.drop 4).take 2)
    let day ← Number.natOfText? (s.drop 6)
    of? year month day
  else none

/-- The text of a date, with hyphens between year, month and day. -/
def text (d : Date) : List Char :=
  padded 4 d.year ++ '-' :: padded 2 d.month ++ '-' :: padded 2 d.day

end Date

end Xbase
