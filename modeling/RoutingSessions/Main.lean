/-
  RoutingSessions.Main — the program, on the files of the machine that it runs on.
-/
import RoutingSessions.Expression.Engine
import RoutingSessions.Program

open RoutingSessions

/-- The files of the machine. -/
def machineFiles : FileStore IO where
  read path := do
    try
      let bytes ← IO.FS.readBinFile path
      return some bytes.toList
    catch _ => return none
  write path text := do
    try
      IO.FS.writeFile path text
      return true
    catch _ => return false

/-- Runs the program. -/
def main (arguments : List String) : IO UInt32 := do
  let done ← Program.execute Expression.engine (fun _ => true) machineFiles arguments
  let out ← IO.getStdout
  let err ← IO.getStderr
  for line in done.output do
    out.putStrLn line
  for line in done.diagnostics do
    err.putStrLn line
  return UInt32.ofNat done.exitCode
