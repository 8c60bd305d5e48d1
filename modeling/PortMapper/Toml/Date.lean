import PortMapper.Toml.Scan

/-!
# Dates in settings documents

A day of the calendar, a time of day, or both with an optional distance from universal time. A minute may
have sixty-one seconds. No setting is a date, so nothing of it is kept.
-/

namespace PortMapper.Toml.Date

open Scan

/-- How many days a month has. -/
def daysIn (year month : Nat) : Nat :=
  if month = 2 then
    if year % 4 = 0 ∧ (year % 100 ≠ 0 ∨ year % 400 = 0) then 29 else 28
  else if month = 4 ∨ month = 6 ∨ month = 9 ∨ month = 11 then 30
  else 31

/-- A day of the calendar. -/
def day : Scan Unit := do
  let year ← numberOf 4 0 9999
  mark '-'
  let month ← numberOf 2 1 12
  mark '-'
  let _ ← numberOf 2 1 (daysIn year month)

def hourAndMinute : Scan Unit := do
  let _ ← numberOf 2 0 23
  mark ':'
  let _ ← numberOf 2 0 59

def time : Scan Unit := do
  hourAndMinute
  mark ':'
  let _ ← numberOf 2 0 60
  let _ ← optional do
    mark '.'
    let _ ← digit 10
    let _ ← span (Text.isDigit 10)

/-- The distance from universal time. -/
def offset : Scan Unit := do
  let c ← one fun c => c == 'Z' || c == 'z' || c == '+' || c == '-'
  if c == '+' || c == '-' then hourAndMinute

/-- A day, a time, or both. -/
def scan : Scan Unit :=
  (do
    day
    let _ ← optional do
      let _ ← one fun c => c == 'T' || c == 't' || c == ' '
      time
      let _ ← optional offset) <|>
  time

end PortMapper.Toml.Date
