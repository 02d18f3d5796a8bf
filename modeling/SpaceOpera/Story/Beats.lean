import SpaceOpera.Plot.Error
import SpaceOpera.Story.Kind
import SpaceOpera.Template.Render

/-!
# From developments to events

Each development is told by events of its own: who acts, on whom, and what the others make of it.  A plot
becomes a story of one scene for each development.  Participants are plain objects here; what they feel,
wear and have to do is worked out over the whole story later.
-/

namespace SpaceOpera

instance : Coe Object Value := ⟨.object⟩

/-- An event with a subject. -/
def beat (e : Event) (subject : Value) : StoryNode :=
  (StoryNode.ofEvent e).set .subject subject

/-- An event with a subject and an object. -/
def beatOn (e : Event) (subject object : Value) : StoryNode :=
  (beat e subject).set .object object

/-- The participants of one development. -/
structure Participants where
  node : PlotNode
  development : Development

namespace Participants

/-- The failure to find the role taken. -/
def missing (p : Participants) (r : Role) : PlotError :=
  .missingRole p.development r

/-- The one who takes the role. -/
def one (p : Participants) (r : Role) : Except PlotError Object :=
  match p.node.objectIn r with
  | some o => .ok o
  | none => .error (p.missing r)

/-- Whatever takes the role. -/
def value (p : Participants) (r : Role) : Except PlotError Value :=
  match p.node.get? r with
  | some v => .ok v
  | none => .error (p.missing r)

/-- Any of those who take the role. -/
def any (p : Participants) (r : Role) : Attempt PlotError Object := do
  let o ← (Roll.choose (p.node.membersOf r) : Roll (Option Object))
  match o with
  | some o => return o
  | none => throw (p.missing r)

/-- Those who act. -/
def subjects (p : Participants) : List Object :=
  p.node.membersOf .subject

end Participants

/-- One of the members that fits, taken out of the list; there has to be one. -/
def extractFor (p : Participants) (os : List Object) (fits : Object → Bool) :
    Attempt PlotError (Object × List Object) := do
  let (o, os) ← (Roll.extract os fits : Roll (Option Object × List Object))
  match o with
  | some o => return (o, os)
  | none => throw (p.missing .subject)

/-- A node for each of the objects. -/
def each (os : List Object) (f : Object → StoryNode) : List StoryNode :=
  os.map f

/-- How someone is found at the start: mostly posing, else minding the household or the ship. -/
def rollPose : Roll Event := do
  if ← Roll.chance 85 then return .poseDescription
  else if ← Roll.chance 50 then return .outOfEggs
  else return .hyperCrystalUsage

/-- A yes, or a draw in its place. -/
def certainOr (sure : Bool) (roll : Roll Bool) : Roll Bool :=
  if sure then pure true else roll

/-- How the members of the cast come in, after those already `seen`: the first is always found at
something, and the others may greet one who came before. -/
def introduce (seen : List Object) : List Object → Roll (List StoryNode)
  | [] => return []
  | s :: rest => do
    let posed ← certainOr seen.isEmpty (Roll.chance 66)
    let pose ← if posed then (fun e => [beat e s]) <$> rollPose else pure []
    let greets ← if seen.isEmpty then pure false else Roll.chance 66
    let greeted ← if greets then Roll.choose seen else pure none
    let greeting := (greeted.map fun other => beatOn .greet s other).toList
    let more ← introduce (seen ++ [s]) rest
    return pose ++ greeting ++ more

/-- The number of times that a moment is drawn out, at least once and at most `limit + 1` times. -/
def rollRounds : Nat → Roll Nat
  | 0 => return 1
  | limit + 1 => do
    if ← Roll.chance 33 then return 1
    else
      let more ← rollRounds limit
      return more + 1

/-- The most that a moment is drawn out. -/
def romanceLimit : Nat := 10000

open StoryNode (ofEvent sequence)

/-- The events of a development, in the order in which they are told. -/
def beatsOf (p : Participants) : Attempt PlotError (List StoryNode) := do
  let subjects := p.subjects
  match p.development with
  | .introduction =>
    let entrances ← (introduce [] subjects : Roll (List StoryNode))
    return each subjects (beat .becomeHappy ·) ++ entrances
  | .itemForeshadowed =>
    let holder ← p.one .subject
    let item ← p.one .object
    let asker ← p.any .bystanders
    return [sequence [beatOn .introduceItem holder item, beatOn .askAboutItem asker item,
      beatOn .replyAboutItem holder asker]]
  | .itemRecalled =>
    let holder ← p.one .subject
    let item ← p.one .object
    let asker ← p.any .bystanders
    return [sequence [(beatOn .rememberItem asker holder).set .object2 item]]
  | .convalescence =>
    let (lead, rest) ← (Roll.extract subjects Object.isLead : Roll (Option Object × List Object))
    let (optimist, _) ←
      (Roll.extract rest Object.isOptimist : Roll (Option Object × List Object))
    let praise := match lead, optimist with
      | some lead, some optimist =>
        beatOn .complimentAction optimist lead ::
          if (lead.rank.bind Rank.next?).isSome then
            [beatOn .offerPromotion optimist lead, beatOn .ohYou lead optimist,
              beatOn .refusePromotion lead optimist]
          else []
      | _, _ => []
    return praise ++ each subjects fun s => sequence [beat .becomeHappy s, beat .convalesce s]
  | .allLaugh => return [ofEvent .allLaugh]
  | .kidnapping =>
    let perp ← p.one .subject
    let abductee ← p.one .object
    let bystanders := p.node.membersOf .bystanders
    let duty := Object.rescueDuty abductee
    let noticer ← p.any .bystanders
    return [beat .becomeHappy perp, beat .appear perp]
      ++ each (bystanders ++ [abductee]) (beat .becomeAngry ·)
      ++ [beatOn .noticeAntagonist noticer perp, beat .cackle perp, beat .antagonistBanter perp,
        beatOn .abduct perp abductee, beatOn .disappear perp abductee]
      ++ each bystanders fun b =>
        sequence [beat .becomeAngry b, beat .panic b, beatOn .acquireDuty b duty]
  | .locateAbductee =>
    let abductee ← p.one .object
    let location ← p.one .object2
    let (lead, others) ← (Roll.extract subjects Object.isLead : Roll (Option Object × List Object))
    let (b, others) ← match lead with
      | some lead => pure (lead, others)
      | none => extractFor p others fun _ => true
    let (a?, _) ← (Roll.extract others fun _ => true : Roll (Option Object × List Object))
    let a := a?.getD b
    let setting ← p.one .setting
    let goal : Event := if a.home.any (· == setting) then .setCourse else .weMustGoTo
    return [beatOn .weMustFindThem a abductee,
      (beatOn .locationHunch b abductee).set .object2 location, beatOn goal a location]
  | .wayBlocked =>
    let (a, others) ← extractFor p subjects fun _ => true
    let (b?, _) ← (Roll.extract others fun _ => true : Roll (Option Object × List Object))
    let second := each b?.toList fun b =>
      sequence [beat .whatWasThat b, beat .bumpIntoForceField b, beat .becomeSad b]
    return [beat .bumpIntoForceField a, beat .becomeSad a] ++ second
      ++ [beat .mustRetraceSteps a, beat .stateDuty a]
  | .rescue =>
    let rescuers ← p.value .subject
    let abductee ← p.one .object
    let duty := Object.rescueDuty abductee
    let leader ← p.any .subject
    return [beat .keepMoving leader, beat .turnCorner rescuers, beat .behindBars abductee,
        beatOn .rescue rescuers abductee, beat .becomeHappy abductee]
      ++ each subjects (beatOn .relieveDuty · duty)
      ++ each subjects fun s => sequence [beatOn .thank abductee s, beat .becomeHappy s]
  | .loseItem =>
    let s ← p.one .subject
    let item ← p.one .object
    let duty := Object.retrieveDuty item
    let reactions ← (p.node.membersOf .bystanders).mapM fun b : Object => (do
      let looks ← Roll.chance 50
      let react : Event := if looks then .lookAt else .gestureAt
      return [beat .becomeSad b, beatOn .acquireDuty b duty, beatOn react b s] :
        Roll (List StoryNode))
    return [beat .lookAround s, beatOn .hold s item, beat .trip s, beatOn .drop s item,
        beat .lose item, beat .becomeEmbarrassed s, beat .oops s, beatOn .acquireDuty s duty]
      ++ reactions.flatten
  | .recoverItem =>
    let s ← p.one .subject
    let item ← p.one .object
    let duty := Object.retrieveDuty item
    let setting ← p.one .setting
    let scenery ← (match setting.place? with
      | some place => place.pickScenery
      | none => pure none : Roll (Option Object))
    let bystanders := p.node.membersOf .bystanders
    let relieved ← (Roll.choose bystanders : Roll (Option Object))
    return [beat .lookAround s, beat .hunch s]
      ++ (scenery.map fun o => beatOn .lookBehind s o).toList
      ++ [beatOn .find s item, beatOn .relieveDuty s duty, beat .becomeHappy s]
      ++ each bystanders (fun b => sequence [beatOn .relieveDuty b duty, beat .becomeHappy b])
      ++ (relieved.map fun b => beat .relief b).toList
  | .trappedInRubble =>
    let s ← p.one .subject
    let setting ← p.one .setting
    let roof ← match setting.place? with
      | some place => pure place.roof
      | none => throw (p.missing .setting)
    let duty := Object.rescueDuty s
    let listener ← p.any .bystanders
    return [ofEvent .rumblingSound, beat .whatWasThatNoise listener, beat .caveIn roof,
        beat .stunned s, beat .buriedUnderRubble s, beat .becomeSad s]
      ++ each (p.node.membersOf .bystanders) fun b =>
        sequence [beat .becomeSad b, beat .panic b, beatOn .acquireDuty b duty]
  | .extractedFromRubble =>
    let trapped ← p.one .object
    let duty := Object.rescueDuty trapped
    return each subjects (fun s => sequence [beat .wasteNoTime s, beatOn .digOut s trapped])
      ++ [beat .becomeHappy trapped]
      ++ each subjects fun s =>
        sequence [beatOn .thank trapped s, beat .becomeHappy s, beatOn .relieveDuty s duty]
  | .goonAmbush =>
    let party ← p.value .subject
    let goons ← p.one .object
    return [beatOn .attack goons party, sequence (each subjects (beat .becomeAngry ·)),
      sequence [ofEvent .genericBattle]]
  | .goonEncounter =>
    let party ← p.value .subject
    let goons ← p.one .object
    let speaker ← p.any .subject
    return [beatOn .encounter goons party, beatOn .goonBanter speaker goons, beat .goonParley goons,
      sequence (each subjects (beat .becomeAngry ·)), sequence [ofEvent .genericBattle]]
  | .protagonistAttack =>
    let goons ← p.one .object
    let armed := subjects.filterMap fun s => s.weapon.map fun weapon => (s, weapon)
    let fighter ← (Roll.choose armed : Roll (Option (Object × Object)))
    match fighter with
    | some (s, weapon) =>
      return [sequence [beat .warCry s, beatOn .unsheathe s weapon, beatOn .liftWeapon s weapon,
        beatOn .bringDownWeapon s weapon, beatOn .weaponContact weapon goons, beat .flyAcross goons]]
    | none =>
      let s ← p.any .subject
      return [sequence [beat .warCry s, beat .rushIntoFray s]]
  | .awkwardCombat =>
    let goons ← p.one .object
    let (lead, others) ← extractFor p subjects Object.isLead
    let (dreamboat, _) ← extractFor p others Object.isDreamboat
    return [sequence [beatOn .tryToGetBehind lead goons, beatOn .bumpIntoAwkwardly lead dreamboat,
      beatOn .lookAt dreamboat lead, beat .blush lead, beat .becomeEmbarrassed lead,
      beat .rushIntoFray dreamboat]]
  | .vanquished =>
    let goons ← p.one .object
    let villain ← p.one .object2
    let speaker ← p.any .subject
    let (a, others) ← extractFor p subjects fun _ => true
    let (b?, _) ← (Roll.extract others (!·.isOptimist) : Roll (Option Object × List Object))
    return [beat .afterBattle goons, sequence [beat .afterBattleBanter speaker]]
      ++ each subjects (beat .becomeHappy ·)
      ++ [sequence [beat .becomeAngry villain,
        (beatOn .observeAfterBattle a goons).set .object2 villain, beat .remindReport a]]
      ++ each b?.toList fun b => sequence [beat .becomeSad b, beat .ifWeGetHome b]
  | .awkwardTension =>
    let a ← p.one .subject
    let b ← p.one .object
    return [beat .becomeEmbarrassed a, beatOn .pullAside a b, beatOn .wantToTalkToYou a b,
      beatOn .whatIsIt b a, beatOn .recallPastEvent a b, beat .becomeEmbarrassed b, beat .blush b,
      beatOn .sayNoMore b a, beat .becomeSad a, beat .becomeHappy b]
  | .romanticTension =>
    let a ← p.one .subject
    let b ← p.one .object
    let rounds ← (rollRounds romanceLimit : Roll Nat)
    return [beat .becomeEmbarrassed a, beatOn .pullAside a b, beatOn .wantToTalkToYou a b,
        beatOn .whatIsIt b a]
      ++ List.replicate rounds (sequence [beatOn .fidget a b, beat .becomeEmbarrassed b,
        beatOn .whatIsIt b a, beatOn .facesCloseTogether b a])
      ++ [beatOn .preludeToKiss a b]
  | .romanticResolution =>
    let a ← p.one .subject
    let b ← p.one .object
    return [beat .becomeHappy a, beat .becomeHappy b, beatOn .pullAside a b, beatOn .whatIsIt b a,
      beatOn .mushyStuff a b, beatOn .ohYou b a, beatOn .kiss b a, beatOn .andTheyKissed b a,
      beatOn .ohYou b a]
  | .drone =>
    let s ← p.one .subject
    return [beat .drone s, beat .becomeAngry s, beat .whatWasThat s, beat .emote s]
  | .contemplateItem =>
    let s ← p.one .subject
    let item ← p.one .object
    return [beatOn .pickUp s item, beatOn .hold s item, beatOn .contemplate s item,
      beat .becomeSad s]
  | .journey =>
    let party ← p.value .subject
    let goal ← p.one .object
    return [beatOn .travelTo party goal]
  | .encounterNewSetting =>
    let (snarker?, others) ←
      (Roll.extract subjects (!·.isOptimist) : Roll (Option Object × List Object))
    let (reader?, _) ← (Roll.extract others fun _ => true : Roll (Option Object × List Object))
    match snarker?, reader? with
    | some snarker, some reader =>
      return [sequence [beat .becomeSad snarker, beat .commentOnPlace snarker],
        sequence [beat .takeReadings reader, beat .readingsBanter snarker]]
    | some snarker, none =>
      return [sequence [beat .becomeSad snarker, beat .commentOnPlace snarker]]
    | none, some reader => return [beat .takeReadings reader]
    | none, none => return []

/-- The events of a plot node; only a development has any. -/
def createEvents (n : PlotNode) : Attempt PlotError (List StoryNode) :=
  match n.development? with
  | some d => beatsOf ⟨n, d⟩
  | none => return []

/-- The scene of a development, where it takes place. -/
def sceneOf (n : PlotNode) : Attempt PlotError StoryNode :=
  match n.setting?, n.development? with
  | some setting, _ => do
    let events ← createEvents n
    return StoryNode.scene setting [sequence events]
  | none, d => throw (.missingRole (d.getD .introduction) .setting)

/-- The story of a plot: one scene for each development. -/
def Story.ofPlot (plot : PlotNode) : Attempt PlotError StoryNode := do
  let scenes ← plot.flatten.developments.mapM sceneOf
  return { kind := .story, children := scenes }

end SpaceOpera
