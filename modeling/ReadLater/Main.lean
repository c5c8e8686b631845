import ReadLater.App
import ReadLater.Json.Write

/-!
# The command line

`main` runs the program with the process's arguments and the configuration variables of its
environment, on stores that start empty. It writes each log record as one line of JSON to
standard output; a failed run writes its error to standard error and exits with status 1.
-/

namespace ReadLater

/-- The configuration variables of the process's environment. -/
def Environment.ofProcess : IO Environment := do
  let mut env : Environment := []
  for name in Config.variables do
    if let some v ← IO.getEnv name then
      env := env ++ [(name, v)]
  return env

end ReadLater

open ReadLater

/-- Runs the program. -/
def main (args : List String) : IO UInt32 := do
  let env ← Environment.ofProcess
  let t ← IO.monoNanosNow
  let s := Service.start {} (.files (Environment.text env "STORE_DATA_DIR" "./data")) ⟨t⟩
  let (o, _) := App.run s .info env args
  let out ← IO.getStdout
  for r in o.log do
    out.putStrLn (Json.render r.toJson)
  match o.ending with
  | .returned (some e) =>
    (← IO.getStderr).putStrLn e
    return 1
  | _ => return 0
