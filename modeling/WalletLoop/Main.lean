import WalletLoop.Simulation

/-!
The command line. It takes the files that matter from the machine, runs the simulation on them, and
makes the directory that the simulation asked for.
-/

namespace WalletLoop.Program

/-- Takes what stands at a path into the tree. What is there but cannot be read stands as a
directory. -/
def take (fs : Files) (path : String) : IO Files := do
  try
    let bytes ← IO.FS.readBinFile path
    return (fs.place path (.ofBytes bytes.toList)).2
  catch
    | .noFileOrDirectory .. => return fs
    | _ => return (fs.makeDirectories path).2

/-- Makes a directory; when that fails, the next call that changes the tree will fail. -/
def make (fs : Files) (path : String) : IO Files := do
  try
    IO.FS.createDirAll path
    return fs
  catch e => return { fs with faults := [some (.refused (toString e))] }

def gather (env : Environment) (current : String) : IO Files := do
  let start := { Files.empty with current := ⟨Path.names current, 0⟩ }
  let start := (start.makeDirectories current).2
  let fs ← (Configuration.candidates env).foldlM take start
  let c := (Configuration.load env fs).1
  let fs ← match (c.preferencesPath env fs).1 with
    | .ok path => take fs path
    | .error _ => pure fs
  match c.preferencesFile, (env.directory fs).1 with
  | none, .ok path => make fs path
  | _, _ => return fs

end WalletLoop.Program

open WalletLoop in
def main : IO UInt32 := do
  let env : Environment := ⟨← IO.getEnv "HOME", ← IO.getEnv "XDG_CONFIG_HOME", none⟩
  let fs ← Program.gather env (← IO.currentDir).toString
  let result := Simulation.run .atOnce env (← IO.getEnv "RUST_LOG") fs
  for n in result.log do
    IO.eprintln ("[" ++ n.level.name.toUpper ++ "] " ++ n.text)
  IO.print result.output
  if let .error fault := result.ended then IO.eprintln ("Error: " ++ fault.message)
  return UInt32.ofNat result.exitCode
