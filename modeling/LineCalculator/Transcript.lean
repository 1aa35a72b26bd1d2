import LineCalculator.Session

/-!
# Streams of lines

The lines of a stream are answered one after another in one session.  Each
line adds one entry: a line of output and the trace of its calculation.  Lines
that fail are counted and do not stop the stream; an abort stops it, and the
line that caused it has an entry without output.
-/

namespace LineCalculator

structure Entry where
  output : String
  trace : String
  deriving DecidableEq, Repr

structure Transcript where
  /-- One entry for each line that was taken from the stream. -/
  entries : Array Entry := #[]
  /-- The number of lines that failed. -/
  failures : Nat := 0
  /-- Why the stream was given up, if it was. -/
  abort : Option Abort := none
  /-- The session after the last line. -/
  session : Session
  deriving DecidableEq, Repr

namespace Transcript

def output (transcript : Transcript) : String :=
  String.join (transcript.entries.toList.map Entry.output)

def trace (transcript : Transcript) : String :=
  String.join (transcript.entries.toList.map Entry.trace)

def record (transcript : Transcript) (line : List Char) : Transcript :=
  let (result, after) := transcript.session.respond line
  let (trace, session) := after.drain
  match result with
  | .error abort =>
      { transcript with
        entries := transcript.entries.push ⟨"", trace⟩
        abort := some abort
        session := session }
  | .ok response =>
      { transcript with
        entries :=
          transcript.entries.push ⟨Session.responseText response ++ "\n", trace⟩
        failures :=
          transcript.failures + (if response.all Reply.isOk then 0 else 1)
        session := session }

/-- Respond to further lines until one of them aborts. -/
def recordAll (transcript : Transcript) : List (List Char) → Transcript
  | [] =>
      transcript
  | line :: later =>
      let next := transcript.record line
      match next.abort with
      | some _ =>
          next
      | none =>
          next.recordAll later

end Transcript

def Session.transcribe (session : Session) (lines : List (List Char)) :
    Transcript :=
  Transcript.recordAll { session := session } lines

end LineCalculator
