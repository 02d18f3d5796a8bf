import SpaceOpera.Text.Spans
import SpaceOpera.Text.Alphabet
import SpaceOpera.Text.Blank
import SpaceOpera.Text.Uppercase
import SpaceOpera.Text.Unprintable
import SpaceOpera.Text.Words
import SpaceOpera.Text.Quoted
import SpaceOpera.Voice.Mood
import SpaceOpera.Prose.Proofread
import SpaceOpera.Chance.Stream
import SpaceOpera.Chance.Context
import SpaceOpera.World.Object
import SpaceOpera.Tree.Node
import SpaceOpera.Template.Basic
import SpaceOpera.Voice.Costume
import SpaceOpera.Template.Render
import SpaceOpera.Story.Kind
import SpaceOpera.Plot.Basic
import SpaceOpera.World.Spec
import SpaceOpera.Telling
import SpaceOpera.Plot.Constraints
import SpaceOpera.Plotter.Assignment
import SpaceOpera.Plotter.Expansion
import SpaceOpera.Story.Beats
import SpaceOpera.Editor.States
import SpaceOpera.Editor.Basic
import SpaceOpera.Prose.Render
import SpaceOpera.Serial.Chapter
import SpaceOpera.Ron.Reader
import SpaceOpera.Ron.Decode
import SpaceOpera.World.File
import SpaceOpera.Serial.File
import SpaceOpera.CommandLine.TemplateLinter
import SpaceOpera.CommandLine.Chapters
import SpaceOpera.Main
import SpaceOpera.Proofs.Chance.Outcomes
import SpaceOpera.Proofs.Success
import SpaceOpera.Proofs.Plot.Replay
import SpaceOpera.Proofs.Plotter.Assignments
import SpaceOpera.Proofs.Plotter.Subplots
import SpaceOpera.Proofs.Plotter.Growth
import SpaceOpera.Proofs.Plotter.Presence
import SpaceOpera.Proofs.Plotter.Fitting
import SpaceOpera.Proofs.Insertion
import SpaceOpera.Proofs.Retelling
import SpaceOpera.Proofs.Plot.Normalization
import SpaceOpera.Proofs.Plot.Keeping
import SpaceOpera.Proofs.Plot.Threads
import SpaceOpera.Proofs.Plot.Continuity
import SpaceOpera.Proofs.Plot.Walk
import SpaceOpera.Proofs.Plot.Pairing
import SpaceOpera.Proofs.Plot.Conservation
import SpaceOpera.Proofs.Plot.LostItems
import SpaceOpera.Proofs.Plotter.Writing
import SpaceOpera.Proofs.Plotter.Deepening
import SpaceOpera.Proofs.Plotter.Upholding
import SpaceOpera.Proofs.Plotter.Warrants
import SpaceOpera.Proofs.Plotter.Disabled
import SpaceOpera.Proofs.Plotter.Threading
import SpaceOpera.Proofs.Plotter.Arrivals
import SpaceOpera.Proofs.Plotter.Journeys
import SpaceOpera.Proofs.Plotter.Encounters
import SpaceOpera.Proofs.Story.Shape
import SpaceOpera.Proofs.Tree.Conforming
import SpaceOpera.Proofs.Editor.States
import SpaceOpera.Proofs.Editor.Beats
import SpaceOpera.Proofs.Editor.Blocks
import SpaceOpera.Proofs.Editor.Asides
import SpaceOpera.Proofs.Editor.Costumes
import SpaceOpera.Proofs.Editor.Introductions
import SpaceOpera.Proofs.Editor.Portraits
import SpaceOpera.Proofs.Editor.Paragraphs
import SpaceOpera.Proofs.Editor.Carrying
import SpaceOpera.Proofs.Editor.Incoming
import SpaceOpera.Proofs.Editor.Openings
import SpaceOpera.Proofs.Editor.Lowering
import SpaceOpera.Proofs.Editor.Preservation
import SpaceOpera.Proofs.Editor.Layout
import SpaceOpera.Proofs.Editor.Acquaintance
import SpaceOpera.Proofs.Editor.Throughout
import SpaceOpera.Proofs.Editor.Values
import SpaceOpera.Proofs.Editor.Dressing
import SpaceOpera.Proofs.Editor.Wardrobes
import SpaceOpera.Proofs.Editor.Moods
import SpaceOpera.Proofs.Editor.Mentions
import SpaceOpera.Proofs.Editor.Duties
import SpaceOpera.Proofs.Template.Guises
import SpaceOpera.Proofs.Template.Writing
import SpaceOpera.Proofs.Chance.Variety
import SpaceOpera.Proofs.Chance.Rounds
import SpaceOpera.Proofs.Chance.Blindness
import SpaceOpera.Proofs.Plotter.Blindness
import SpaceOpera.Proofs.Plotter.Drafts
import SpaceOpera.Proofs.Story.Blindness
import SpaceOpera.Proofs.Editor.Blindness
import SpaceOpera.Proofs.Story.Casting
import SpaceOpera.Proofs.Prose.Straightening
import SpaceOpera.Proofs.Prose.WordCounts
import SpaceOpera.Proofs.Prose.Words
import SpaceOpera.Proofs.World.Built
import SpaceOpera.Proofs.World.Described
import SpaceOpera.Proofs.World.Names
import SpaceOpera.Proofs.Plotter.Overtaking
import SpaceOpera.Proofs.Plotter.Reordering
import SpaceOpera.Proofs.Plotter.Parts
import SpaceOpera.Proofs.Plotter.Foreshadowing
import SpaceOpera.Proofs.Story.Script
import SpaceOpera.Proofs.Story.Beats
import SpaceOpera.Proofs.Story.Errands
import SpaceOpera.Proofs.Editor.Telling
import SpaceOpera.Proofs.Serial.Chapters
import SpaceOpera.Proofs.Serial.SceneBreaks
import SpaceOpera.Proofs.Serial.Titles
import SpaceOpera.Proofs.Serial.Synopses
import SpaceOpera.Proofs.Serial.Duties
import SpaceOpera.Proofs.Serial.Agreement
import SpaceOpera.Proofs.Serial.Rejections
import SpaceOpera.Proofs.Editor.Paragraphing
import SpaceOpera.Proofs.Editor.Joining
import SpaceOpera.Proofs.Editor.Verdict
import SpaceOpera.Proofs.Editor.Outfits
import SpaceOpera.Proofs.Tree.Flattening
import SpaceOpera.Proofs.Plot.Crossings
import SpaceOpera.Proofs.Template.Roles
import SpaceOpera.Proofs.Tree.Outline
