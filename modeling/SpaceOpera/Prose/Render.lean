import SpaceOpera.Plot.Basic
import SpaceOpera.Prose.Proofread
import SpaceOpera.Story.Kind
import SpaceOpera.Template.Render

/-!
# Putting stories and plots into words

An edited story is told event by event, each by one of its templates in varied order; paragraphs,
scenes and the breaks between scenes are laid out around them.  A plot can be told in brief, one numbered
line for each development.
-/

namespace SpaceOpera.Prose

open SpaceOpera.Text

/-- What stands between two scenes. -/
def sceneBreak : String := "\n\n- - - -\n\n"

/-- The text without the blanks at its end. -/
def trimmed (s : String) : String :=
  String.ofList (trimEnd s.toList)

mutual

/-- Does the node end in an exclamation mark?  A pair of events does if the second one does. -/
def isExciting : StoryNode → Bool
  | ⟨.event e, _, _⟩ => e.isExciting
  | ⟨.conjoined, _, cs⟩ => isLastExciting cs
  | _ => false

/-- Does the last of the nodes end in an exclamation mark? -/
def isLastExciting : List StoryNode → Bool
  | [] => false
  | [c] => isExciting c
  | _ :: cs => isLastExciting cs

end

/-- The templates for an event: those for one piece, where they differ and nothing is worn on the legs. -/
def templatesFor (e : Event) (n : StoryNode) : List String :=
  let hasLegs := (n.stateIn .subject).any (·.legs.isSome)
  match e.onePieceTemplates? with
  | some onePiece => if hasLegs then e.templates else onePiece
  | none => e.templates

/-- Tells one event. -/
def renderEvent (e : Event) (n : StoryNode) : Attempt RenderError String := do
  let template ← (Roll.pickVaried (templatesFor e n) : Roll (Option String))
  match template with
  | some template => renderTemplate template n
  | none => throw (.noTemplates n.summary)

/-- A sentence with its capital and its mark. -/
def sentence (n : StoryNode) (text : String) : String :=
  capitalize text ++ (if isExciting n then "!  " else ".  ")

/-- What the texts of its children make of a node that is no event. -/
def layOut (k : StoryKind) (children : List StoryNode) (texts : List String) : String :=
  match k with
  | .story => sceneBreak.intercalate texts
  | .scene | .eventSequence => "\n\n".intercalate (texts.map capitalize)
  | .paragraph => trimmed (String.join (List.zipWith sentence children texts))
  | .conjoined => ", and ".intercalate texts
  | .event _ => ""

mutual

/-- Tells a story. -/
def renderStory : StoryNode → Attempt RenderError String
  | ⟨.event e, a, cs⟩ => renderEvent e ⟨.event e, a, cs⟩
  | ⟨k, _, cs⟩ => do
    let texts ← renderAll cs
    return layOut k cs texts

/-- Tells several nodes one after the other. -/
def renderAll : List StoryNode → Attempt RenderError (List String)
  | [] => return []
  | c :: cs => do
    let text ← renderStory c
    let texts ← renderAll cs
    return text :: texts

end

/-! ## Synopses -/

/-- Where a development takes place, with the preposition in front of it. -/
def whereabouts (n : PlotNode) : String × String :=
  match n.setting? with
  | some s => ((s.place?.map (·.preposition)).getD "", s.definite)
  | none => ("", "nowhere")

/-- The entry of a development: its number, where it happens, and what happens. -/
def synopsisEntry (number : Nat) (n : PlotNode) (line : String) : String :=
  let (preposition, place) := whereabouts n
  s!"{number}. {preposition} {place},\n   {line}.\n"

/-- The line of a development. -/
def synopsisLine (d : Development) (n : PlotNode) : Attempt RenderError String := do
  let template ← (Roll.pickVaried [d.synopsis] : Roll (Option String))
  match template with
  | some template => renderTemplate template n
  | none => throw (.noTemplates n.summary)

/-- The entries of the nodes, numbered from `number` on; what is no development has none. -/
def synopsisEntries (number : Nat) : List PlotNode → Attempt RenderError (List String)
  | [] => return []
  | n :: ns => do
    match n.development? with
    | none => synopsisEntries (number + 1) ns
    | some d =>
      let line ← synopsisLine d n
      let rest ← synopsisEntries (number + 1) ns
      return synopsisEntry number n line :: rest

/-- Tells a plot in brief. -/
def renderSynopsis (plot : PlotNode) : Attempt RenderError String := do
  let entries ← synopsisEntries 1 plot.developments
  return String.join entries

end SpaceOpera.Prose
