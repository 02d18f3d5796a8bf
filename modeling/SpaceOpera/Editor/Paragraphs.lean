import SpaceOpera.Editor.Scenes

/-!
# Paragraphs

The events of a scene are broken into paragraphs where their subject changes, and some that stand side by
side in a paragraph are joined into one sentence.
-/

namespace SpaceOpera

/-- The object of the state that a node is about. -/
def Node.stateSubject? (n : StoryNode) : Option Object :=
  (n.stateIn .subject).map (·.object)

/-- Does a paragraph begin with this event?  It does when the event always opens one, when the event is
about nobody, and when it is about someone other than the paragraph before it. -/
def breaksBefore (subject : Option Object) (n : StoryNode) : Bool :=
  n.event?.any Event.startsParagraph ||
    match n.stateSubject? with
    | none => true
    | some o => !subject.any (o == ·)

/-- The paragraphs from the one on that is about `subject` and holds `current` so far. -/
def paragraphsFrom (subject : Option Object) (current : List StoryNode) :
    List StoryNode → List (List StoryNode)
  | [] => if current.isEmpty then [] else [current]
  | n :: ns =>
    if breaksBefore subject n then
      let rest := paragraphsFrom n.stateSubject? [n] ns
      if current.isEmpty then rest else current :: rest
    else paragraphsFrom subject (current ++ [n]) ns

/-- The events in paragraphs. -/
def paragraphsOf (events : List StoryNode) : List (List StoryNode) :=
  paragraphsFrom none [] events

/-- A scene with its events in paragraphs; it has to hold one sequence of events. -/
def splitScene (n : StoryNode) : Except EditError StoryNode :=
  match n.children with
  | [events] =>
    if events.kind = .eventSequence then
      match events.children.find? (·.event?.isNone) with
      | some other => .error (.malformedScene other.summary)
      | none =>
        let paragraphs : List StoryNode := (paragraphsOf events.children).map fun p =>
          { kind := .paragraph, children := p }
        .ok (n.withChildren [StoryNode.sequence paragraphs])
    else .error (.malformedScene n.summary)
  | _ => .error (.malformedScene n.summary)

mutual

/-- The story with the events of every scene in paragraphs. -/
def splitIntoParagraphs : StoryNode → Except EditError StoryNode
  | ⟨k, a, cs⟩ =>
    if k = .scene then splitScene ⟨k, a, cs⟩
    else do
      let cs ← splitIntoParagraphsList cs
      return ⟨k, a, cs⟩

/-- The nodes with the events of every scene in paragraphs. -/
def splitIntoParagraphsList : List StoryNode → Except EditError (List StoryNode)
  | [] => return []
  | c :: cs => do
    let c ← splitIntoParagraphs c
    let cs ← splitIntoParagraphsList cs
    return c :: cs

end

/-! ## Joining -/

/-- Can the node be joined to a neighbour? -/
def Node.isConjoinable (n : StoryNode) : Bool :=
  n.event?.any Event.isConjoinable

/-- Two events as one sentence. -/
def conjoined (first second : StoryNode) : StoryNode :=
  { kind := .conjoined, children := [first, second] }

/-- The nodes from `held` on, some joined to the node before them. -/
def conjoinFrom (chance : Nat) (held : StoryNode) : List StoryNode → Roll (List StoryNode)
  | [] => return [held]
  | n :: ns => do
    let joins ← if held.isConjoinable && n.isConjoinable then Roll.chance chance else pure false
    if joins then conjoinFrom chance (conjoined held n) ns
    else
      let rest ← conjoinFrom chance n ns
      return held :: rest

/-- The children of a paragraph, some joined in pairs. -/
def conjoinChildren (chance : Nat) : List StoryNode → Roll (List StoryNode)
  | [] => return []
  | n :: ns => conjoinFrom chance n ns

mutual

/-- The story with some neighbouring events of its paragraphs joined; `chance` is in percent. -/
def conjoin (chance : Nat) : StoryNode → Roll StoryNode
  | ⟨k, a, cs⟩ =>
    if k = .paragraph then do
      let cs ← conjoinChildren chance cs
      return ⟨k, a, cs⟩
    else do
      let cs ← conjoinList chance cs
      return ⟨k, a, cs⟩

/-- The nodes with some neighbouring events of their paragraphs joined. -/
def conjoinList (chance : Nat) : List StoryNode → Roll (List StoryNode)
  | [] => return []
  | c :: cs => do
    let c ← conjoin chance c
    let cs ← conjoinList chance cs
    return c :: cs

end

mutual

/-- The story with every joined pair taken apart again. -/
def unjoin : StoryNode → StoryNode
  | ⟨k, a, cs⟩ => ⟨k, a, unjoinList cs⟩

/-- The nodes with every joined pair taken apart again. -/
def unjoinList : List StoryNode → List StoryNode
  | [] => []
  | c :: cs => (if c.kind = .conjoined then (unjoin c).children else [unjoin c]) ++ unjoinList cs

end

end SpaceOpera
