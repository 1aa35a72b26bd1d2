import LineCalculator.CommandLine.Run

/-!
# The command on the running system

The real counterpart of `CommandLine.execute`: files are opened, read and
written through the system, in the same order.  The lines of the standard input
end at line feeds only.
-/

namespace LineCalculator.CommandLine

def OpenError.ofSystem : IO.Error → OpenError
  | .noFileOrDirectory _ code details =>
      .ofCode code.toNat details
  | .inappropriateType _ code details =>
      .ofCode code.toNat details
  | .invalidArgument _ code details =>
      .ofCode code.toNat details
  | .permissionDenied _ code details =>
      .ofCode code.toNat details
  | .resourceExhausted _ code details =>
      .ofCode code.toNat details
  | error =>
      .other 5 (toString error)

/-- Open a file for reading.  A directory opens as well, but the first byte of
it cannot be read. -/
def openForReading (path : String) : IO IO.FS.Handle := do
  let probe ← IO.FS.Handle.mk path .read
  discard (probe.read 1)
  IO.FS.Handle.mk path .read

def openForWriting (path : String) : IO IO.FS.Handle :=
  IO.FS.Handle.mk path .write

def openStream
    (opening : String → IO IO.FS.Handle) (path? : Option String)
    (standard : IO.FS.Stream) :
    IO (Except OpenFailure IO.FS.Stream) := do
  match path? with
  | none =>
      return .ok standard
  | some path =>
      if path.toList.contains '\x00' then
        return .error .embeddedNull
      try
        return .ok (IO.FS.Stream.ofHandle (← opening path))
      catch error =>
        return .error (.refused (.ofSystem error) path)

def emit (outcome : Outcome) : IO UInt32 := do
  IO.print outcome.stdout
  IO.eprint outcome.stderr
  match outcome.status with
  | .ok status =>
      return status.toUInt32
  | .error breakdown =>
      IO.eprintln (breakdown.message?.getD "the input is not valid UTF-8")
      return 1

def runRequest (request : Request) : IO UInt32 := do
  match ← openStream openForReading request.input (← IO.getStdin) with
  | .error failure =>
      emit (failure.outcome inputLabel {})
  | .ok source =>
      match ← openStream openForWriting request.output (← IO.getStdout) with
      | .error failure =>
          emit (failure.outcome outputLabel {})
      | .ok sink =>
          let ends := if request.input.isNone then .feed else .any
          let input ← source.readBinToEnd
          let outcome := process request.session {} ends input none
          sink.putStr outcome.stdout
          sink.flush
          emit { outcome with stdout := "" }

end LineCalculator.CommandLine

open LineCalculator.CommandLine in
/-- Evaluate one integer arithmetic expression per line. -/
def main (arguments : List String) : IO UInt32 := do
  let debug := debugByDefault (← IO.getEnv "EXPRCALC_DEBUG")
  match parseArguments debug arguments with
  | .ok (.run request) =>
      runRequest request
  | _ =>
      emit (execute debug arguments {} .empty)
