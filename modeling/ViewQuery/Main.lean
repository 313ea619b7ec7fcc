import ViewQuery.Program

set_option autoImplicit false

namespace ViewQuery.Main

-- A file operation; any failure that is not told apart counts as a missing file.
def attempt {α : Type} (action : IO α) : IO (Except FileError α) := do
  try
    return .ok (← action)
  catch e =>
    match e with
    | .inappropriateType .. => return .error .isFolder
    | _ => return .error .missing

instance : Storage IO where
  read path := attempt do return (← IO.FS.readBinFile path).toList
  write path contents := attempt (IO.FS.writeBinFile path (ByteArray.mk contents.toArray))
  contains path := do
    match ← attempt (IO.FS.readBinFile path) with
    | .error .missing => return false
    | _ => return true

def variableNames : List String :=
  ["IQL_LLM_MODEL", "IQL_SIMILARITY_TIMEOUT_MS", "IQL_EVAL_CONCURRENCY", "RUST_LOG", "LOG_FORMAT",
    "LOG_OUTPUT", "LOG_DIR", Program.keyVariable]

def environment : IO Environment :=
  variableNames.filterMapM fun name => do return (← IO.getEnv name).map fun value => (name, value)

end ViewQuery.Main

open ViewQuery in
def main (args : List String) : IO UInt32 := do
  let outcome ← Program.run (← Main.environment) (.ofReplies []) args
  IO.print outcome.printed
  match outcome.ending with
  | .failure f => IO.eprint f.text
  | _ => pure ()
  return UInt32.ofNat outcome.ending.code
