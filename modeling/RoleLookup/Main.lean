import RoleLookup.Program
import Std.Time.DateTime.Timestamp

/-!
# The command line

Reads the files that a run of the program needs, carries it out and writes its output. The network
here is one without a route, so that the directory is always out of reach.
-/

open RoleLookup

namespace RoleLookup.CommandLine

/-- Wording of the failure to read a file. -/
def reasonOf : IO.Error → String
  | .noFileOrDirectory .. => Files.notFound
  | .inappropriateType .. => Files.isADirectory
  | .permissionDenied .. => "Permission denied (os error 13)"
  | e => toString e

/-- The contents of a file, or the wording of the failure. -/
def contentsOf (path : String) : IO (Except String (List UInt8)) := do
  try
    let bytes ← IO.FS.readBinFile path
    return .ok bytes.toList
  catch e => return .error (reasonOf e)

/-- The answers to reading some files. -/
def filesAt (paths : List String) : IO Files := do
  let contents ← paths.mapM fun path => do return (path, ← contentsOf path)
  return fun path => ((contents.find? (·.1 == path)).map (·.2)).getD (.error Files.notFound)

/-- The files that a command line needs: the configuration and the trust store that it names. -/
def filesOf (arguments : List String) : IO Files := do
  match parse arguments with
  | .error _ => filesAt []
  | .ok a =>
    let files ← filesAt [a.configuration]
    match (Configuration.read files a.configuration).2 with
    | .error _ => return files
    | .ok c => filesAt (a.configuration :: c.directory.trustStore.toList)

/-- The network of the program. -/
def network : Directory.Network Unit :=
  .withoutRoute (.io "Network is unreachable (os error 101)")

/-- Writes output at the present time. -/
def write (started : Nat) (output : List Output) : IO Unit := do
  let stdout ← IO.getStdout
  for o in output do
    let nanoseconds := (← Std.Time.Timestamp.now).toNanosecondsSinceUnixEpoch.val
    let uptime := (← IO.monoNanosNow) - started
    let moment := Log.Moment.ofUnix (nanoseconds.fdiv 1000000000)
      (nanoseconds.fmod 1000000000).toNat 0
    stdout.putStr (o.text ⟨moment, uptime⟩)
  stdout.flush

/-- Watches until the program is stopped from outside. -/
partial def keepWatching (started : Nat) (watch : Watch Unit) : IO Unit := do
  let now := ((← IO.monoNanosNow) - started) / 1000000
  let (watch, output) := watch.round now
  write started output
  let later := ((← IO.monoNanosNow) - started) / 1000000
  let pause := (watch.nextDeadline.getD (later + 1000)) - later
  IO.sleep (UInt32.ofNat (min pause 60000))
  keepWatching started watch

end RoleLookup.CommandLine

open RoleLookup.CommandLine in
/-- The program. -/
def main (arguments : List String) : IO UInt32 := do
  let started ← IO.monoNanosNow
  let files ← filesOf arguments
  let colours := ((← IO.getEnv "NO_COLOR").getD "").isEmpty
  match Program.run network colours files arguments () with
  | .ended output exitCode complaint =>
    write started output
    if let some complaint := complaint then
      (← IO.getStderr).putStrLn complaint
    return UInt32.ofNat exitCode
  | .watching output watch =>
    write started output
    keepWatching started watch
    return 0
