import BenchJob.Text.Integer
import BenchJob.World

/-!
# The time of a commit

Results are filed under the time of the commit that was measured. The version control program is
asked for it in the checkout, and its answer has to be a number of seconds that fits 64 signed bits.

## Main definitions

- `Commit.parseTimestamp?`: the number that a text writes, within those bounds.
- `Commit.timestamp`: the time of the commit that is checked out in a directory.
-/

namespace BenchJob.Commit

/-- Does the number fit 64 signed bits? -/
def fits (n : Int) : Bool := -(Int.pow 2 63) ≤ n && n < Int.pow 2 63

/-- The timestamp that a text writes between blanks. -/
def parseTimestamp? (text : String) : Option Int :=
  (Text.Integer.read? (Text.trim text.toList)).filter fits

/-- The question for the time of the commit that is checked out in a directory. -/
def request (dir : String) : Request := ⟨"git", ["log", "-1", "--format=%ct"], some dir⟩

def noAnswer (dir : String) (cause : Failure) : Failure :=
  (Failure.gitCommandFailed cause.message).withHint
    ("Check that " ++ dir ++ " is a git checkout with at least one commit")

def unexpectedAnswer (answer : String) : Failure :=
  .gitCommandFailed ("Unexpected commit timestamp from git: '" ++ answer ++ "'")

def timestamp (w : World) (dir : String) : Act Log Int := do
  let answer ← tryCatch (w.capture (request dir) "git log") fun cause => throw (noAnswer dir cause)
  match parseTimestamp? answer with
  | some seconds => return seconds
  | none => throw (unexpectedAnswer answer)

end BenchJob.Commit
