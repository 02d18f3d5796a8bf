import SpaceOpera.Editor.Basic
import SpaceOpera.Plotter.Expansion
import SpaceOpera.Prose.Render
import SpaceOpera.Serial.Config
import SpaceOpera.Serial.Title
import SpaceOpera.Story.Beats
import SpaceOpera.World.Spec

/-!
# Chapters

A serial tells chapters of one world, one after the other: each gets a plot, a story, a title and a text.
From chapter to chapter it remembers who has been introduced and which titles are in use.
-/

namespace SpaceOpera

/-- Why a serial or one of its chapters fails. -/
inductive SerialError where
  | plot (e : PlotError)
  | edit (e : EditError)
  | render (e : RenderError)
  | world (e : WorldError)
  /-- A world file that cannot be read; the text is the operating system's. -/
  | worldUnreadable (text : String)
  /-- A world file that is not well written. -/
  | worldMalformed (text : String)
  /-- A configuration file that cannot be read; the text is the operating system's. -/
  | configUnreadable (text : String)
  /-- A configuration file that is not well written. -/
  | configMalformed (text : String)
  | missingWorld
deriving DecidableEq, Repr

/-- The text of the reason. -/
def SerialError.message : SerialError → String
  | plot e => "plot error: " ++ e.message
  | edit e => "lowering error: " ++ e.message
  | render e => "grammar error: " ++ e.message
  | world e => "world error: " ++ e.message
  | worldUnreadable text => "world error: IO error: " ++ text
  | worldMalformed text => "world error: RON error: " ++ text
  | configUnreadable text => "IO error: " ++ text
  | configMalformed text => "RON error: " ++ text
  | missingWorld => "no world was given to the engine"

/-- One chapter. -/
structure Chapter where
  title : String
  plot : PlotNode
  /-- The edited story; there is none of a synopsis. -/
  story : Option StoryNode
  text : String
  /-- The text of each scene; none unless the chapter is told in prose. -/
  scenes : List String
  wordCount : Nat

/-- A world and what has been chosen about its chapters. -/
structure Serial where
  world : World
  config : Config

/-- How far a serial has come. -/
structure Progress where
  narration : Narration
  editor : Editor
  usedTitles : List String := []

/-- A computation that carries a serial on, and can fail. -/
abbrev Step := ExceptT SerialError (StateM Progress)

/-- Runs a telling as a step. -/
def Telling.asStep {ε α : Type} (wrap : ε → SerialError) (t : Telling ε α) : Step α :=
  ExceptT.mk fun p : Progress =>
    let (result, narration) := t.run p.narration
    (result.mapError wrap, { p with narration })

/-- Runs a computation that draws as a step. -/
def Attempt.asStep {ε α : Type} (wrap : ε → SerialError) (t : Attempt ε α) : Step α :=
  (Attempt.narrate t).asStep wrap

/-- The progress of a serial that starts from a seed. -/
def Progress.start (config : Config) (seed : UInt64) : Progress :=
  let ctx := Context.ofSeed seed
  { narration :=
      { context := { ctx with variety := { ctx.variety with enabled := config.variety } }
        diagnostics := #[.seeded seed] }
    editor := { conjoinChance := config.conjoinChance } }

namespace Serial

/-- Edits a story. -/
def editStory (story : StoryNode) : Step StoryNode :=
  ExceptT.mk fun p : Progress =>
    let ((result, editor), narration) := (p.editor.edit story).run p.narration
    (result.mapError SerialError.edit, { p with narration, editor })

/-- Picks a title and puts it in use. -/
def takeTitle (plot : PlotNode) : Step String :=
  ExceptT.mk fun p : Progress =>
    let (title, narration) := (pickTitle p.usedTitles plot).narrate p.narration
    (.ok title, { p with narration, usedTitles := title :: p.usedTitles })

/-- The plotter of a serial. -/
def plotter (s : Serial) : Plotter :=
  ⟨s.world, s.config.disabledRules⟩

/-- A plot that the constraints accept. -/
def writePlot (s : Serial) : Step PlotNode :=
  (s.plotter.acceptablePlot s.config.constraints s.config.depth s.config.maxAttempts).asStep .plot

/-- Tells a plot in brief. -/
def writeSynopsis (plot : PlotNode) : Step Chapter := do
  let text ← Attempt.asStep .render (Prose.renderSynopsis plot)
  let title ← takeTitle plot
  return { title, plot, story := none, text, scenes := [], wordCount := Prose.wordCount text }

/-- The lines of a tree, each with its line break. -/
def dumpText (n : StoryNode) : String :=
  String.join (n.dump.map (· ++ "\n"))

/-- Tells one scene. -/
def writeScene (scene : StoryNode) : Attempt RenderError String := do
  let text ← Prose.renderStory scene
  return Prose.proofread text

/-- Tells the scenes of an edited story. -/
def writeProse (title : String) (plot : PlotNode) (story : StoryNode) : Step Chapter := do
  let scenes ← Attempt.asStep .render (story.children.mapM writeScene)
  let text := Prose.sceneBreak.intercalate scenes
  let wordCount := Prose.wordCount text
  Telling.asStep SerialError.plot (report [.chapterWritten title scenes.length wordCount])
  return { title, plot, story := some story, text, scenes, wordCount }

/-- Tells a plot as a story. -/
def writeStory (s : Serial) (plot : PlotNode) : Step Chapter := do
  let story ← Attempt.asStep .plot (Story.ofPlot plot)
  let story ← editStory story
  let title ← takeTitle plot
  match s.config.output with
  | .dump =>
    let text := dumpText story
    return { title, plot, story := some story, text, scenes := []
             wordCount := Prose.wordCount text }
  | _ => writeProse title plot story

/-- Writes the next chapter. -/
def writeChapter (s : Serial) : Step Chapter := do
  let plot ← s.writePlot
  match s.config.output with
  | .synopsis => writeSynopsis plot
  | _ => s.writeStory plot

/-- Writes the next chapters, up to the first that fails. -/
def writeChapters (s : Serial) : Nat → Step (List Chapter)
  | 0 => return []
  | count + 1 => do
    let chapter ← s.writeChapter
    let chapters ← s.writeChapters count
    return chapter :: chapters

end Serial

end SpaceOpera
