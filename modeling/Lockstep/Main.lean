import Lockstep.CommandLine.Program

open Lockstep

/-- Saves a recording, and says why it could not be saved. -/
def saveRecording (recording? : Option (String × RunExport)) : IO (Except SaveError Unit) := do
  match recording? with
  | none => return .ok ()
  | some (path, recording) =>
    try
      IO.FS.writeFile path recording.json.pretty
      return .ok ()
    catch
      | .noFileOrDirectory .. => return .error .noDirectory
      | .inappropriateType _ 20 _ => return .error .notDirectory
      | .inappropriateType .. => return .error .isDirectory
      | .permissionDenied .. => return .error .notPermitted
      | .resourceExhausted .. => return .error .noSpace
      | .invalidArgument .. => return .error .longName
      | e => return .error (.other (toString e))

def printReport (r : ProgramReport) : IO UInt32 := do
  for line in r.errors do
    IO.eprintln line
  IO.print r.output
  return UInt32.ofNat r.exit

/-- The program takes its arguments, the filter of its journal and a seed from its surroundings, saves the
recording if there is one, and prints its report. -/
def main (arguments : List String) : IO UInt32 := do
  let filter ← IO.getEnv "RUST_LOG"
  let now ← IO.monoNanosNow
  let bytes ← IO.getRandomBytes 16
  let high := UInt64.ofNat ((bytes.toList.take 8).foldl (fun n b => 256 * n + b.toNat) 0)
  let low := UInt64.ofNat ((bytes.toList.drop 8).foldl (fun n b => 256 * n + b.toNat) 0)
  match Program.start arguments filter (UInt64.ofNat now) (RunId.ofRandom high low) with
  | none => throw (IO.userError "the run does not end")
  | some (.inl report) => printReport report
  | some (.inr (session, filter)) =>
    let written ← saveRecording session.recording?
    printReport (session.report filter written)
