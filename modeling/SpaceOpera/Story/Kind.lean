import SpaceOpera.Story.Event
import SpaceOpera.Tree.Node

/-!
# Stories

A story is a tree: scenes in their settings, sequences of events, later paragraphs, and events with a
subject and up to two objects.
-/

namespace SpaceOpera

/-- The kinds of nodes of a story. -/
inductive StoryKind where
  | story
  | scene
  | eventSequence
  | paragraph
  /-- Two events told as one sentence. -/
  | conjoined
  | event (e : Event)
deriving DecidableEq, Repr

namespace StoryKind

/-- The event, if the kind is one. -/
def event? : StoryKind → Option Event
  | event e => some e
  | _ => none

instance : NodeKind StoryKind where
  label
    | story => "Story"
    | scene => "Scene"
    | eventSequence => "EventSequence"
    | paragraph => "Paragraph"
    | conjoined => "Conjoined"
    | event _ => "Event"
  roles
    | scene => [.setting]
    | event _ => [.subject, .object, .object2]
    | _ => []
  isSequence
    | eventSequence | paragraph => true
    | _ => false
  debug
    | story => "Story"
    | scene => "Scene"
    | eventSequence => "EventSequence"
    | paragraph => "Paragraph"
    | conjoined => "Conjoined"
    | event e => "Event(" ++ e.name ++ ")"

end StoryKind

/-- A node of a story. -/
abbrev StoryNode := Node StoryKind

namespace StoryNode

/-- An event without participants. -/
def ofEvent (e : Event) : StoryNode :=
  { kind := .event e }

/-- Events in order. -/
def sequence (children : List StoryNode) : StoryNode :=
  { kind := .eventSequence, children }

/-- A scene in a setting. -/
def scene (setting : Object) (children : List StoryNode) : StoryNode :=
  { kind := .scene, attributes := ⟨[(.setting, .object setting)]⟩, children }

end StoryNode

namespace Node

/-- The kind of beat, if the node is an event. -/
def event? (n : StoryNode) : Option Event :=
  n.kind.event?

/-- The object that an event is about. -/
def subject? (n : StoryNode) : Option Object :=
  n.objectIn .subject

/-- The events of a story, in the order in which they are told. -/
def events (n : StoryNode) : List StoryNode :=
  n.preorder.filter fun m => m.event?.isSome

end Node

end SpaceOpera
