import BenchJob.Failure

/-!
# Steps that may fail

Programs are started and notices are told before a failure is known, and they are not undone by it.
A step therefore carries its state through failures: `Act σ α` is a function from a state to an
answer or a failure, and to the state that is left in either case.
-/

namespace BenchJob

/-- A step that may fail and that may change a state, whether it fails or not. -/
abbrev Act (σ α : Type) := ExceptT Failure (StateM σ) α

end BenchJob
