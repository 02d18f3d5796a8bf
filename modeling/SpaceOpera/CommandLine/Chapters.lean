import SpaceOpera.CommandLine.Outcome
import SpaceOpera.Serial.File

/-!
# The chapter writer

Writes chapters of a serial from a world file.  What the arguments choose wins over what the
configuration file chooses.
-/

namespace SpaceOpera.CommandLine

/-- What the arguments ask for. -/
structure Request where
  world : Option String := none
  config : Option String := none
  seed : Option UInt64 := none
  chapters : Nat := 1
  depth : Option Nat := none
  output : Option OutputMode := none

/-- How the command is used. -/
def usage : List String :=
  ["Chapter — writes chapters of space opera from a world file.",
    "",
    "Usage: chapter --world <file.ron> [options]",
    "",
    "  --world <file>     World catalog (RON)",
    "  --config <file>    Engine configuration (RON, optional)",
    "  --seed <n>         RNG seed (default: random, logged)",
    "  --chapters <n>     Chapters to write (default: 1)",
    "  --depth <n>        Plot expansion rounds (default: 5)",
    "  --synopsis         Print the plot synopsis instead of prose",
    "  --dump             Print the lowered story tree instead of prose"]

/-- Ends with a complaint and tells how the command is used. -/
def misused (complaint : String) : Outcome :=
  { Outcome.failure 1 complaint with output := ofLines usage }

/-- The number that decimal digits make; no digits make none. -/
def digits? (text : List Char) : Option Nat :=
  if text.isEmpty || !text.all Char.isDigit then none
  else some (text.foldl (fun n c => 10 * n + (c.toNat - '0'.toNat)) 0)

/-- The number that a text gives: decimal digits, after a plus sign or without one. -/
def numeral? (text : String) : Option Nat :=
  match text.toList with
  | '+' :: digits => digits? digits
  | digits => digits? digits

/-- The number below `size` that a flag gives. -/
def number (size : Nat) (flag text : String) : Except Outcome Nat :=
  match (numeral? text).filter (· < size) with
  | some n => .ok n
  | none => .error (.failure 1 s!"Error: {flag} expects a number, got '{text}'")

/-- Reads the arguments, later ones over earlier ones, up to the first that ends the command. -/
def Request.read (r : Request) : List String → Except Outcome Request
  | [] => .ok r
  | "--world" :: path :: args => { r with world := some path }.read args
  | "--config" :: path :: args => { r with config := some path }.read args
  | "--seed" :: text :: args => do
    let n ← number UInt64.size "--seed" text
    { r with seed := some (.ofNat n) }.read args
  | "--chapters" :: text :: args => do
    let n ← number UInt64.size "--chapters" text
    { r with chapters := n }.read args
  | "--depth" :: text :: args => do
    let n ← number UInt32.size "--depth" text
    { r with depth := some n }.read args
  | "--synopsis" :: args => { r with output := some .synopsis }.read args
  | "--dump" :: args => { r with output := some .dump }.read args
  | "--help" :: _ => .error { output := ofLines usage }
  | "-h" :: _ => .error { output := ofLines usage }
  | arg :: _ => .error (misused s!"Unknown argument: {arg}")

/-- What a file holds, or why it cannot be read. -/
abbrev Files := String → Except String String

/-- What is chosen: the configuration file, then the arguments. -/
def Request.choose (r : Request) (files : Files) : Except Outcome Config := do
  let config : Config ← match r.config with
    | none => pure ({} : Config)
    | some path =>
      (Config.load (files path)).mapError fun e =>
        Outcome.failure 1 s!"Error: failed to load config {path}: {e.message}"
  return { config with
    depth := r.depth.getD config.depth
    output := r.output.getD config.output }

/-- How a chapter is printed. -/
def print (output : OutputMode) (c : Chapter) : String :=
  match output with
  | .prose => s!"## {c.title}\n\n{c.text}\n\n"
  | _ => s!"{c.text}\n"

/-- Writes the chapters asked for. -/
def Request.write (r : Request) (files : Files) (seed : UInt64) : Except Outcome Outcome := do
  let some path := r.world | throw (misused "Error: --world is required")
  let config ← r.choose files
  let (opened, progress) := (Serial.opening config (some (.file (files path)))).run
    (.start config seed)
  let serial ← opened.mapError fun e => Outcome.failure 1 s!"Error: {e.message}"
  match ((serial.writeChapters r.chapters).run progress).1 with
  | .error e => throw (.failure 1 s!"Error: {e.message} (seed {seed})")
  | .ok chapters =>
    let words := chapters.foldl (fun n c => n + c.wordCount) 0
    return {
      output := String.join (chapters.map (print config.output))
      complaints := ofLines [s!"{chapters.length} chapters, {words} words, seed {seed}"] }

/-- Runs the chapter writer on its arguments; `chance` is the seed when they give none. -/
def chapterWriter (args : List String) (files : Files) (chance : UInt64) : Outcome :=
  let run : Except Outcome Outcome := do
    let r ← Request.read {} args
    r.write files (r.seed.getD chance)
  match run with
  | .ok outcome => outcome
  | .error outcome => outcome

end SpaceOpera.CommandLine
