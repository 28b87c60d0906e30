import SnippetCheck.Command
import SnippetCheck.Http.Net

/-! The program. It reads the files that the arguments and the environment name, and the standard
input where that is checked, and prints what the run comes to. It reaches no service and runs no
tool by itself: both are for whoever gives a run a world that has them. -/

namespace SnippetCheck.Program

def contentOf (path : String) : IO (Except FileFault (List UInt8)) := do
  try
    return .ok (← IO.FS.readBinFile path).toList
  catch
    | .noFileOrDirectory .. => return .error .notFound
    | .permissionDenied .. => return .error .denied
    | .inappropriateType .. => return .error .isDirectory
    | _ => return .error .notFound

/-- All that is left of a stream. -/
partial def drain (stream : IO.FS.Stream) (taken : ByteArray) : IO ByteArray := do
  let more ← stream.read 65536
  if more.isEmpty then return taken else drain stream (taken ++ more)

def variableNames : List String :=
  [Config.fileVariable, Config.urlVariable, Config.fallbackVariable, Config.quickVariable]

/-- What surrounds this run. -/
def surroundings (args : List String) : IO World := do
  let values ← variableNames.mapM fun name => return (name, ← IO.getEnv name)
  let environment : Environment := fun name => (values.lookup name).join
  let (paths, readsStdin) := match Arguments.read args with
    | .ok a => (a.file.toList ++ (a.configFile.or (environment Config.fileVariable)).toList,
        a.readsStdin && !a.probe)
    | .error _ => ([], false)
  let contents ← paths.mapM fun path => return (path, ← contentOf path)
  let stdin ← if readsStdin then drain (← IO.getStdin) .empty else pure .empty
  return {
    files := fun path => (contents.lookup path).getD (.error .notFound)
    environment
    stdin := stdin.toList
    transport := .through .deserted
    toolchain := fun edition =>
      { edition, builder := none, compiler := none, directory := .ok "." } }

end SnippetCheck.Program

open SnippetCheck in
def main (args : List String) : IO UInt32 := do
  let outcome := Command.run (← Program.surroundings args) args
  IO.print outcome.stdout
  IO.eprint outcome.stderr
  return outcome.status.toUInt32
