import LineCalculator.CommandLine.Run
import LineCalculator.Proofs.CommandLine.Files
import LineCalculator.Proofs.Replies

/-!
# Ends that cannot be opened

An end of the command that cannot be opened is reported on one line, whatever
characters its path has, and nothing else is done.
-/

namespace LineCalculator

/-! ## Reports -/

namespace Quoted

end Quoted

namespace CommandLine

variable {opening : String → Except OpenError Place} {path : String}

/-- The command gave up with one line of report under the label, and did
nothing else. -/
structure Outcome.Refuses
    (outcome : Outcome) (label : String) (files : FileSystem) : Prop where
  status_eq : outcome.status = .ok 1
  stdout_eq : outcome.stdout = ""
  stderr_eq :
    ∃ reason : String,
      '\n' ∉ reason.toList ∧ outcome.stderr = label ++ reason ++ "\n"
  files_eq : outcome.files = files

end CommandLine

end LineCalculator
