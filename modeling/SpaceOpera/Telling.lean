import SpaceOpera.Plot.Basic
import SpaceOpera.Template.Render

/-!
# Tellings

A telling draws from the narrative context, reports what it does, and can fail.  What it has drawn and
reported before it fails stays drawn and reported.
-/

namespace SpaceOpera

/-- How much a report matters. -/
inductive Severity where
  | debug
  | info
  | warning
deriving DecidableEq, Repr

/-- The name of the severity in a log. -/
def Severity.name : Severity → String
  | debug => "DEBUG"
  | info => "INFO"
  | warning => "WARN"

/-- What a telling reports. -/
inductive Diagnostic where
  | seeded (seed : UInt64)
  | chapterWritten (title : String) (scenes words : Nat)
  | commuted (earlier later : Development)
  | holeUnfilled (hole : String)
  | noHolesLeft (round : Nat)
  | plotAccepted (attempts : Nat)
  | plotRejected (attempts : Nat) (reason : String)
  | moodAssumed (character : String)
  | dutyExpected (character object : String)
  | dutyNotAcquired (character duty : String)
deriving DecidableEq, Repr

namespace Diagnostic

/-- How much the report matters. -/
def severity : Diagnostic → Severity
  | seeded _ | chapterWritten _ _ _ => .info
  | commuted _ _ | holeUnfilled _ | noHolesLeft _ | plotAccepted _ | plotRejected _ _ => .debug
  | moodAssumed _ | dutyExpected _ _ | dutyNotAcquired _ _ => .warning

/-- What the report says, and its fields. -/
def text : Diagnostic → String
  | seeded seed => s!"narrative engine seeded seed={seed}"
  | chapterWritten title scenes words =>
    s!"chapter written title={title} scenes={scenes} word_count={words}"
  | commuted earlier later =>
    s!"commuting developments earlier=Some({earlier.name}) later=Some({later.name})"
  | holeUnfilled hole => s!"no applicable rule, leaving hole unfilled hole={hole}"
  | noHolesLeft round => s!"no holes left round={round}"
  | plotAccepted attempts => s!"plot accepted attempts={attempts}"
  | plotRejected attempts reason => s!"plot rejected attempts={attempts} reason={reason}"
  | moodAssumed character =>
    s!"appears before any mood is assigned, assuming happy character={character}"
  | dutyExpected character object =>
    s!"duty change names something that is not a duty character={character} object={object}"
  | dutyNotAcquired character duty =>
    s!"relieved of a duty that was never acquired character={character} duty={duty}"

/-- The line of the report in a log. -/
def line (d : Diagnostic) : String :=
  s!"{d.severity.name} {d.text}"

end Diagnostic

/-- The context of a telling and what it has reported, in order. -/
structure Narration where
  context : Context
  diagnostics : Array Diagnostic := #[]

/-- A computation that draws, reports and can fail. -/
abbrev Telling (ε : Type) := ExceptT ε (StateM Narration)

/-- What only draws. -/
def Roll.narrate {α : Type} (roll : Roll α) : StateM Narration α := fun n : Narration =>
  let (a, context) := roll n.context
  (a, { n with context })

instance : MonadLift Roll (StateM Narration) := ⟨Roll.narrate⟩

/-- What draws and can fail. -/
def Attempt.narrate {ε α : Type} (attempt : Attempt ε α) : Telling ε α :=
  ExceptT.mk (Roll.narrate attempt.run)

instance {ε : Type} : MonadLift (Attempt ε) (Telling ε) := ⟨Attempt.narrate⟩

/-- Reports what happened. -/
def report {ε : Type} (ds : List Diagnostic) : Telling ε Unit :=
  ExceptT.mk fun n : Narration => (.ok (), { n with diagnostics := n.diagnostics ++ ds })

end SpaceOpera
