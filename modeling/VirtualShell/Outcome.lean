/-!
Contract: what running something yields.

Owns:
- `ExitCode`, a number below 256, and `ExitCode.ofInt`, any integer folded into that
  range.
- `Outcome`, the two output streams and the exit code.
-/

namespace VirtualShell

/-- A number below 256; zero means success. -/
abbrev ExitCode := UInt8

/-- An integer folded into the range of exit codes, modulo 256. -/
def ExitCode.ofInt (code : Int) : ExitCode :=
  UInt8.ofNat (code % 256).toNat

/-- What running something yields. -/
structure Outcome where
  stdout : String
  stderr : String
  exitCode : ExitCode
deriving DecidableEq, Repr

namespace Outcome

/-- Success without output. -/
def success : Outcome := ⟨"", "", 0⟩

/-- Success with output. -/
def printed (stdout : String) : Outcome := ⟨stdout, "", 0⟩

/-- A failure with an error text. -/
def failure (stderr : String) (exitCode : ExitCode) : Outcome := ⟨"", stderr, exitCode⟩

/-- Zero if `holds`, else one. -/
def ofTruth (holds : Bool) : Outcome := ⟨"", "", if holds then 0 else 1⟩

end Outcome

end VirtualShell
