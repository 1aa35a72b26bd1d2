import LineCalculator.CommandLine.Arguments
import LineCalculator.CommandLine.FileSystem
import LineCalculator.Text.Utf8
import LineCalculator.Transcript

/-!
# The command

The command reads its input, a file or the standard input, as UTF-8,
calculates every line and writes the results to a file or the standard output.
Where the input cannot be decoded the command breaks off; the lines that have
been read by then are calculated, and their results are kept.
The input is opened before the output, and a file that cannot be opened ends
the command before anything else happens; otherwise the output is emptied
before the input is read.  Traces go to the standard error stream.

A file is opened so that its lines end at line feeds and carriage returns alike.
The standard input has been opened by somebody else, who decides what ends its
lines: a terminal or a pipe ends them at line feeds only, a stream that has been
opened like a file at both.

The exit status is 0 when the lines have been processed, whether or not some
failed, 1 when a file cannot be opened, and 2 for a usage error.
-/

namespace LineCalculator.CommandLine

/-- What breaks the command off without an exit status of its own. -/
inductive Breakdown where
  | calculation (abort : Abort)
  | undecodableInput
  | embeddedNull
  deriving DecidableEq, Repr

def Breakdown.message? : Breakdown → Option String
  | .calculation abort =>
      some abort.message
  | .undecodableInput =>
      none
  | .embeddedNull =>
      some "embedded null byte"

structure Outcome where
  status : Except Breakdown Nat
  stdout : String := ""
  stderr : String := ""
  files : FileSystem

inductive OpenFailure where
  | embeddedNull
  | refused (error : OpenError) (path : String)
  deriving DecidableEq, Repr

/-- Open one end of the command, given by a path or left to the standard
stream: the place of a file, or none for the standard stream. -/
def openEnd
    (opening : String → Except OpenError Place) (path? : Option String) :
    Except OpenFailure (Option Place) :=
  match path? with
  | none =>
      .ok none
  | some path =>
      if path.toList.contains '\x00' then
        .error .embeddedNull
      else
        match opening path with
        | .error error =>
            .error (.refused error path)
        | .ok place =>
            .ok (some place)

def inputLabel : OpenError → String
  | .noSuchFile =>
      "File not found: "
  | _ =>
      "Cannot open file: "

def outputLabel (_ : OpenError) : String :=
  "Cannot open file: "

/-- The outcome when one end of the command cannot be opened: no file is
touched. -/
def OpenFailure.outcome (label : OpenError → String) (files : FileSystem) :
    OpenFailure → Outcome
  | .embeddedNull =>
      { status := .error .embeddedNull, files := files }
  | .refused error path =>
      { status := .ok 1,
        stderr := label error ++ error.report path ++ "\n",
        files := files }

def inputLines (ends : Lines.Ends) (reading : Utf8.Reading) :
    List (List Char) :=
  if reading.complete then
    Lines.split ends reading.text.toList
  else
    Lines.splitEnded ends reading.text.toList

/-- The exit of a run over an input that was decoded completely or not. -/
def exitStatus (complete : Bool) (transcript : Transcript) :
    Except Breakdown Nat :=
  match transcript.abort with
  | some abort =>
      .error (.calculation abort)
  | none =>
      if complete then .ok 0 else .error .undecodableInput

def Request.session (request : Request) : Session :=
  { engine := request.engine, tracer := { enabled := request.debug } }

def emptySink (files : FileSystem) : Option Place → FileSystem
  | none =>
      files
  | some place =>
      files.put place .empty

def readSource (files : FileSystem) (stdin : ByteArray) :
    Option Place → ByteArray
  | none =>
      stdin
  | some place =>
      files.read place

/-- What ends the lines of the input: those of a file end at either character. -/
def sourceEnds (stdinEnds : Lines.Ends) : Option Place → Lines.Ends
  | none =>
      stdinEnds
  | some _ =>
      .any

/-- Process an input; the output, if it is a file, has been emptied. -/
def process
    (session : Session) (files : FileSystem) (ends : Lines.Ends)
    (input : ByteArray) (sink : Option Place) :
    Outcome :=
  let reading := Utf8.read input
  let transcript := session.transcribe (inputLines ends reading)
  let status := exitStatus reading.complete transcript
  match sink with
  | none =>
      { status := status,
        stdout := transcript.output,
        stderr := transcript.trace,
        files := files }
  | some place =>
      { status := status,
        stderr := transcript.trace,
        files := files.put place transcript.output.toUTF8 }

/-- Carry out a request.  Unless it is said otherwise, the standard input is a
stream whose lines end like those of a file. -/
def run
    (request : Request) (files : FileSystem) (stdin : ByteArray)
    (stdinEnds : Lines.Ends := .any) :
    Outcome :=
  match openEnd files.openInput request.input with
  | .error failure =>
      failure.outcome inputLabel files
  | .ok source =>
      match openEnd files.openOutput request.output with
      | .error failure =>
          failure.outcome outputLabel files
      | .ok sink =>
          let emptied := emptySink files sink
          process request.session emptied (sourceEnds stdinEnds source)
            (readSource emptied stdin source) sink

def usage : String :=
  "usage: exprcalc [-h] [--parser \x7bdescent,grammar\x7d] [--debug] [input] [output]\n"

def helpText : String :=
  usage ++ "\n"
    ++ "Evaluate one integer arithmetic expression per line.\n\n"
    ++ "positional arguments:\n"
    ++ "  input                 input file (default: stdin)\n"
    ++ "  output                output file (default: stdout)\n\n"
    ++ "options:\n"
    ++ "  -h, --help            show this help message and exit\n"
    ++ "  --parser \x7bdescent,grammar\x7d\n"
    ++ "                        parser implementation to use\n"
    ++ "  --debug               trace parsing and evaluation to stderr\n"

def usageReport (error : UsageError) : String :=
  usage ++ "exprcalc: error: " ++ error.message ++ "\n"

def execute
    (debug : Bool) (arguments : List String) (files : FileSystem)
    (stdin : ByteArray) (stdinEnds : Lines.Ends := .any) :
    Outcome :=
  match parseArguments debug arguments with
  | .error error =>
      { status := .ok 2, stderr := usageReport error, files := files }
  | .ok .help =>
      { status := .ok 0, stdout := helpText, files := files }
  | .ok (.run request) =>
      run request files stdin stdinEnds

/-- The value of the environment variable that switches the trace on. -/
def debugByDefault (setting : Option String) : Bool :=
  setting == some "1"

end LineCalculator.CommandLine
