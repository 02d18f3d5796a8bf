import SpaceOpera.Story.Kind
import SpaceOpera.Template.Render
import SpaceOpera.Tree.Annotate

/-!
# Scenes

Neighbouring scenes in one setting become one; those who pose do so at a piece of the scenery; and each
scene opens with a look at its setting.
-/

namespace SpaceOpera

/-- Why a story cannot be edited. -/
inductive EditError where
  | noScenery (setting : String)
  | malformedScene (scene : String)
deriving DecidableEq, Repr

/-- The text of the reason. -/
def EditError.message : EditError → String
  | noScenery setting => s!"setting '{setting}' has no scenery to describe"
  | malformedScene scene => s!"scene is not a single sequence of events: {scene}"

/-- Is the node a scene? -/
def Node.isScene (n : StoryNode) : Bool :=
  n.kind = .scene

/-! ## Merging -/

/-- Are these two scenes in one setting? -/
def continues (last next : StoryNode) : Bool :=
  last.isScene && next.isScene && last.get? .setting == next.get? .setting

/-- The nodes from `held` on, scenes in one setting merged into the first of them. -/
def mergeFrom (held : StoryNode) : List StoryNode → List StoryNode
  | [] => [held]
  | n :: ns =>
    if continues held n then mergeFrom (held.withChildren (held.children ++ n.children)) ns
    else held :: mergeFrom n ns

/-- The story with neighbouring scenes in one setting merged. -/
def mergeAdjacentScenes (story : StoryNode) : StoryNode :=
  match story.children with
  | [] => story
  | n :: ns => story.withChildren (mergeFrom n ns)

/-! ## Scenery -/

/-- The setting of a scene; any other node stays where it is. -/
def enterScene (k : StoryKind) (a : Attributes) (setting : Option Object) : Option Object :=
  if k = .scene then (a.get? .setting).bind Value.object? else setting

/-- Something in the setting that stays where it is. -/
def pickSceneryOf (setting : Option Object) : Roll (Option Object) :=
  match setting.bind Object.place? with
  | some place => place.pickScenery
  | none => pure none

/-- A pose in a setting gets a piece of its scenery for an object. -/
def poseAt (setting : Option Object) (k : StoryKind) (a : Attributes) : Roll Attributes :=
  if k = .event .poseDescription then do
    let scenery ← pickSceneryOf setting
    return match scenery with
      | some o => a.set .object (.object o)
      | none => a
  else pure a

/-- The story with every pose at a piece of scenery of its scene. -/
def resolveScenery (setting : Option Object) (story : StoryNode) : Roll StoryNode :=
  story.annotate enterScene poseAt setting

/-! ## Openings -/

/-- The events that open a scene: the setting, something in it, and an impression. -/
def openingBeats (setting : Value) (scenery : State) : List StoryNode :=
  [(StoryNode.ofEvent .settingDescription).set .subject setting,
    ((StoryNode.ofEvent .nearbyDescription).set .subject setting).set .object (.state scenery),
    (StoryNode.ofEvent .genericSettingDescription).set .subject setting]

/-- A scene with an opening in front of what happens in it. -/
def openScene (n : StoryNode) : Attempt EditError StoryNode :=
  match n.get? .setting with
  | none => throw (.malformedScene n.summary)
  | some setting =>
    match setting.object? with
    | none => throw (.malformedScene n.summary)
    | some place => do
      let scenery ← (pickSceneryOf (some place) : Roll (Option Object))
      match scenery with
      | none => throw (.noScenery place.name)
      | some o =>
        let opening := openingBeats setting { object := o, location := some place }
        return n.withChildren
          [StoryNode.sequence (opening ++ [StoryNode.sequence n.children])]

mutual

/-- The story with an opening for every scene. -/
def describeScenes : StoryNode → Attempt EditError StoryNode
  | ⟨k, a, cs⟩ =>
    if k = .scene then openScene ⟨k, a, cs⟩
    else do
      let cs ← describeScenesList cs
      return ⟨k, a, cs⟩

/-- The nodes with an opening for every scene. -/
def describeScenesList : List StoryNode → Attempt EditError (List StoryNode)
  | [] => return []
  | c :: cs => do
    let c ← describeScenes c
    let cs ← describeScenesList cs
    return c :: cs

end

end SpaceOpera
