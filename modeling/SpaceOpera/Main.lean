import SpaceOpera.CommandLine.Chapters
import SpaceOpera.CommandLine.TemplateLinter

/-!
# The program

The first argument names the command, `chapter` or `template_linter`; the others are the command's own.
-/

namespace SpaceOpera.CommandLine

/-- What a file holds, or why it cannot be read. -/
def contents (path : String) : IO (Except String String) := do
  try
    let text ← IO.FS.readFile path
    return .ok text
  catch
    | .noFileOrDirectory .. => return .error "No such file or directory (os error 2)"
    | e => return .error (toString e)

/-- The files of the given paths. -/
def load (paths : List String) : IO Files := do
  let found ← paths.mapM fun path => return (path, ← contents path)
  return fun path => (found.lookup path).getD (.error "not read")

/-- A seed from the system. -/
def randomSeed : IO UInt64 := do
  let bytes ← IO.getRandomBytes 8
  return bytes.foldl (fun n b => 256 * n + b.toUInt64) 0

/-- The paths that the arguments of the chapter writer name. -/
def paths (args : List String) : List String :=
  match Request.read {} args with
  | .ok r => r.world.toList ++ r.config.toList
  | .error _ => []

/-- Runs the command. -/
def run (args : List String) : IO Outcome := do
  match args with
  | "chapter" :: args => return chapterWriter args (← load (paths args)) (← randomSeed)
  | "template_linter" :: args => return templateLinter false args
  | _ => return .failure 1 "Expected a command: chapter or template_linter"

end SpaceOpera.CommandLine

open SpaceOpera.CommandLine

/-- Runs the command and writes what it leaves behind. -/
def main (args : List String) : IO UInt32 := do
  let outcome ← run args
  IO.print outcome.output
  IO.eprint outcome.complaints
  return outcome.code.toUInt32
