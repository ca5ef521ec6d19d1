import LoginThrottle.Daemon

/-!
# The program

The daemon on the host that it is started on: its arguments, its environment and the file
with its configuration come from there, and what it says goes there. What the daemon does is
said in `LoginThrottle.Daemon`; here nothing is decided.
-/

namespace LoginThrottle.Program

/-- The content of a file that can be read. -/
def readable? (path : String) : IO (Option String) := do
  try return some (← IO.FS.readFile path)
  catch _ => return none

/-- The variables that a block of entries with null characters between them sets. -/
def parseVariables (block : String) : List (String × String) :=
  (block.splitOn "\x00").filterMap fun entry =>
    match entry.splitOn "=" with
    | name :: first :: rest => some (name, "=".intercalate (first :: rest))
    | _ => none

/-- What the program finds on its host, with the file that its arguments name. -/
def surroundings (arguments : List String) : IO Daemon.Surroundings := do
  let around : Daemon.Surroundings := {
    file? := fun _ => none
    configPath := ← IO.getEnv "AUTHGUARD_CONFIG"
    logRules := ← IO.getEnv "RUST_LOG"
    environment := parseVariables ((← readable? "/proc/self/environ").getD "") }
  match Daemon.configPath around arguments with
  | .ok (some path) =>
    let content ← readable? path
    return { around with file? := fun asked => if asked == path then content else none }
  | _ => return around

/-- Prints what a run says and leaves its exit code. -/
def leave (run : Daemon.Run) : IO UInt32 := do
  for line in run.log do
    IO.println line.render
  IO.print run.ending.stdout
  unless run.ending.stderr.isEmpty do
    IO.eprintln run.ending.stderr
  return UInt32.ofNat run.ending.exitCode

end LoginThrottle.Program

/-- Runs the daemon with the given arguments. -/
def main (arguments : List String) : IO UInt32 := do
  let around ← LoginThrottle.Program.surroundings arguments
  LoginThrottle.Program.leave (LoginThrottle.Daemon.run around arguments none)
