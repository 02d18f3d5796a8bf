/-!
# Outcomes of commands

What a command leaves behind: its exit status and what it writes on either stream.
-/

namespace SpaceOpera.CommandLine

/-- What a command leaves behind. -/
structure Outcome where
  code : UInt8 := 0
  /-- What goes to the standard output. -/
  output : String := ""
  /-- What goes to the standard error. -/
  complaints : String := ""

/-- The text of lines, each with its line break. -/
def ofLines (ls : List String) : String :=
  String.join (ls.map (· ++ "\n"))

/-- Ends with a complaint. -/
def Outcome.failure (code : UInt8) (complaint : String) : Outcome :=
  { code, complaints := ofLines [complaint] }

end SpaceOpera.CommandLine
