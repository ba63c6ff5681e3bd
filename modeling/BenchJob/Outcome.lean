/-!
# Outcomes and exit codes

An app that was run ends with an exit code, and whoever ran it says whether it succeeded. The job's
own exit code repeats the app's, except that trouble never looks like success: an app that did not
succeed and has no positive code of its own makes the job end with 1.

The operating system keeps eight bits of an exit code. Larger codes are cut down to the largest one
instead of wrapping around, so that a positive code never becomes 0.

## Main definitions

- `Outcome`: how an app ended.
- `Outcome.jobCode`: the exit code of a job whose app ended this way.
- `processCode`: the eight bits that the operating system is given.
-/

namespace BenchJob

structure Outcome where
  exitCode : Int
  success : Bool
  deriving Repr, DecidableEq

def Outcome.ofExitCode (code : Int) : Outcome := ⟨code, code == 0⟩

def Outcome.jobCode (o : Outcome) : Int :=
  if o.success then 0 else if 0 < o.exitCode then o.exitCode else 1

/-- The exit code that the operating system is given: between 0 and 255. -/
def processCode (code : Int) : UInt8 :=
  if code ≤ 0 then 0 else if 255 ≤ code then 255 else UInt8.ofNat code.toNat

end BenchJob
