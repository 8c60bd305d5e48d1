import PortMapper.Bytes

/-!
# Reports

How a program says why it failed: what went wrong and, if something else caused it, the cause. A report is
shown on one line, or as a block with the cause below.
-/

namespace PortMapper

/-- What went wrong, and what caused it. -/
structure Report where
  what : Text
  cause : Option Text := none
  deriving DecidableEq, Repr

namespace Report

/-- A report on one line. -/
def line (report : Report) : Text :=
  match report.cause with
  | none => report.what
  | some cause => report.what ++ ": ".toList ++ cause

/-- A report with its cause in a paragraph of its own. -/
def block (report : Report) : Text :=
  "Error: ".toList ++ report.what ++ ['\n'] ++
    match report.cause with
    | none => []
    | some cause => "\nCaused by:\n    ".toList ++ cause ++ ['\n']

example : (Report.mk ['a'] (some ['b'])).line = ['a', ':', ' ', 'b'] := by decide

end Report

/-- What a program wrote and how it ended. -/
structure Outcome where
  exit : UInt8
  output : Text := []
  errors : Text := []
  deriving DecidableEq, Repr

end PortMapper
