import SpaceOpera.CommandLine.Outcome
import SpaceOpera.Plot.Basic
import SpaceOpera.Story.Kind
import SpaceOpera.Template.Render

/-!
# The template linter

Reads every template of events and developments and checks that each slot starts from a role that its
node declares.  An event that has nothing to be told with is an error unless it is transient; one with a
single template only deserves a warning.
-/

namespace SpaceOpera.CommandLine

/-- What is wrong with a template of a kind of node, if anything is. -/
def lintTemplate? {κ : Type} [NodeKind κ] (owner source : String) (kind : κ) : Option String :=
  match Template.parse source with
  | .error fault => some s!"{owner}: {(RenderError.template source fault).message}"
  | .ok t =>
    match t.checkRoles kind with
    | .error e => some s!"{owner}: '{source}': {e.message}"
    | .ok _ => none

/-- All templates of an event. -/
def templatesOf (e : Event) : List String :=
  e.templates ++ e.onePieceTemplates?.getD []

/-- What is wrong with the templates of an event. -/
def eventErrors (e : Event) : List String :=
  let untold := if e.templates.isEmpty && !e.isTransient
    then [s!"{e.name} has no templates and is not transient"] else []
  untold ++ (templatesOf e).filterMap (lintTemplate? e.name · (StoryKind.event e))

/-- What is dull about the templates of an event. -/
def eventWarning? (e : Event) : Option String :=
  if e.templates.length = 1 && !e.isTransient
  then some s!"{e.name} has a single template and will repeat verbatim" else none

/-- What is wrong with the synopsis of a development. -/
def developmentError? (d : Development) : Option String :=
  lintTemplate? s!"{d.name} synopsis" d.synopsis (PlotKind.development d)

/-- The number of templates. -/
def templateCount : Nat :=
  (Event.all.flatMap templatesOf).length + Development.all.length

/-- Lints all templates; a quiet report leaves the warnings out. -/
def lintReport (quiet : Bool) : Outcome :=
  let errors := Event.all.flatMap eventErrors ++ Development.all.filterMap developmentError?
  let warnings := Event.all.filterMap eventWarning?
  let verdict := if errors.isEmpty && warnings.isEmpty then ["All checks passed!"] else []
  let shown := if quiet then [] else warnings.map ("WARNING: " ++ ·)
  { code := if errors.isEmpty then 0 else 1
    output := ofLines <|
      [s!"Checked {templateCount} templates", "", "=== Template Lint Report ===", ""]
        ++ verdict ++ shown ++ errors.map ("ERROR: " ++ ·)
        ++ ["", s!"Summary: {errors.length} errors, {warnings.length} warnings"] }

/-- Runs the linter on its arguments; `quiet` tells what those before them have asked for. -/
def templateLinter (quiet : Bool) : List String → Outcome
  | [] => lintReport quiet
  | arg :: args =>
    if arg = "--quiet" || arg = "-q" then templateLinter true args
    else if arg = "--help" || arg = "-h" then
      { output := ofLines ["Usage: template_linter [--quiet]"] }
    else .failure 2 s!"Unknown argument: {arg}"

end SpaceOpera.CommandLine
