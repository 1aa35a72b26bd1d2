import LineCalculator.Proofs.CommandLine.Opening
import LineCalculator.Proofs.Lines
import LineCalculator.Proofs.Reading
import LineCalculator.Proofs.Stream

/-!
# Runs of the command

An end that cannot be opened ends the command before anything is touched.
Otherwise the results of the lines of the input arrive at the output, whether it
is a file or the standard output.

The lines of a file end at line feeds and carriage returns.  What ends the lines
of the standard input is up to that stream; where it is line feeds only, the
results are still those of a file if no carriage return stands alone in the text.
-/

namespace LineCalculator

/-! ## Inputs -/

namespace CommandLine

/-- The text arrived at the output, where it stands in place of what stood
there, and at no other place did anything change.  Only what is written beyond
the working directory is not kept. -/
def Outcome.Delivers
    (outcome : Outcome) (files : FileSystem) (text : String) :
    Option Place → Prop
  | none =>
      outcome.stdout = text ∧ outcome.files = files
  | some place =>
      outcome.stdout = "" ∧
        (place ≠ .beyond →
          outcome.files.node? place = some (.file text.toUTF8)) ∧
        ∀ other, other ≠ place →
          outcome.files.node? other = files.node? other

variable {files : FileSystem} {source sink : Option Place}

/-- The outcome follows a transcript: the status tells nothing of lines that
failed. -/
structure Outcome.Follows
    (outcome : Outcome) (transcript : Transcript) (files : FileSystem)
    (sink : Option Place) : Prop where
  status_eq : transcript.abort = none → outcome.status = .ok 0
  stderr_eq : outcome.stderr = transcript.trace
  delivers : outcome.Delivers files transcript.output sink

end CommandLine

end LineCalculator
