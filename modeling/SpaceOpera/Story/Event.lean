import SpaceOpera.Voice.Mood

/-!
# Events

The beats that a story is told in.  Some only carry a mood or a duty from one event to the next and are
never told; each of the others has a family of templates, one of which is told in its place.
-/

namespace SpaceOpera

/-- A kind of beat. -/
inductive Event where
  | becomeHappy
  | becomeSad
  | becomeAngry
  | becomeEmbarrassed
  | acquireDuty
  | relieveDuty
  | settingDescription
  | nearbyDescription
  | genericSettingDescription
  | characterDescription
  | characterFeaturesDescription
  | characterReminder
  | torsoCostumeDescription
  | torsoCostumeReminder
  | feetCostumeDescription
  | feetCostumeReminder
  | poseDescription
  | pickUp
  | hold
  | contemplate
  | gestureAt
  | lookAt
  | lookAround
  | emote
  | stateDuty
  | greet
  | characterStaysHappy
  | outOfEggs
  | hyperCrystalUsage
  | introduceItem
  | askAboutItem
  | replyAboutItem
  | rememberItem
  | rumblingSound
  | whatWasThatNoise
  | caveIn
  | stunned
  | buriedUnderRubble
  | wasteNoTime
  | digOut
  | appear
  | disappear
  | noticeAntagonist
  | cackle
  | antagonistBanter
  | abduct
  | panic
  | weMustFindThem
  | locationHunch
  | setCourse
  | weMustGoTo
  | keepMoving
  | turnCorner
  | behindBars
  | rescue
  | thank
  | bumpIntoForceField
  | whatWasThat
  | mustRetraceSteps
  | trip
  | drop
  | lose
  | oops
  | hunch
  | lookBehind
  | find
  | relief
  | attack
  | encounter
  | goonBanter
  | goonParley
  | genericBattle
  | warCry
  | unsheathe
  | liftWeapon
  | bringDownWeapon
  | weaponContact
  | flyAcross
  | tryToGetBehind
  | bumpIntoAwkwardly
  | blush
  | rushIntoFray
  | afterBattle
  | afterBattleBanter
  | observeAfterBattle
  | remindReport
  | ifWeGetHome
  | pullAside
  | wantToTalkToYou
  | whatIsIt
  | recallPastEvent
  | sayNoMore
  | preludeToKiss
  | fidget
  | facesCloseTogether
  | mushyStuff
  | kiss
  | andTheyKissed
  | drone
  | travelTo
  | commentOnPlace
  | takeReadings
  | readingsBanter
  | complimentAction
  | offerPromotion
  | ohYou
  | refusePromotion
  | convalesce
  | allLaugh
deriving DecidableEq, Repr

namespace Event

/-- Every kind of beat. -/
def all : List Event :=
  [becomeHappy, becomeSad, becomeAngry, becomeEmbarrassed, acquireDuty, relieveDuty,
    settingDescription, nearbyDescription, genericSettingDescription, characterDescription,
    characterFeaturesDescription, characterReminder, torsoCostumeDescription,
    torsoCostumeReminder, feetCostumeDescription, feetCostumeReminder, poseDescription, pickUp,
    hold, contemplate, gestureAt, lookAt, lookAround, emote, stateDuty, greet,
    characterStaysHappy, outOfEggs, hyperCrystalUsage, introduceItem, askAboutItem,
    replyAboutItem, rememberItem, rumblingSound, whatWasThatNoise, caveIn, stunned,
    buriedUnderRubble, wasteNoTime, digOut, appear, disappear, noticeAntagonist, cackle,
    antagonistBanter, abduct, panic, weMustFindThem, locationHunch, setCourse, weMustGoTo,
    keepMoving, turnCorner, behindBars, rescue, thank, bumpIntoForceField, whatWasThat,
    mustRetraceSteps, trip, drop, lose, oops, hunch, lookBehind, find, relief, attack,
    encounter, goonBanter, goonParley, genericBattle, warCry, unsheathe, liftWeapon,
    bringDownWeapon, weaponContact, flyAcross, tryToGetBehind, bumpIntoAwkwardly, blush,
    rushIntoFray, afterBattle, afterBattleBanter, observeAfterBattle, remindReport, ifWeGetHome,
    pullAside, wantToTalkToYou, whatIsIt, recallPastEvent, sayNoMore, preludeToKiss, fidget,
    facesCloseTogether, mushyStuff, kiss, andTheyKissed, drone, travelTo, commentOnPlace,
    takeReadings, readingsBanter, complimentAction, offerPromotion, ohYou, refusePromotion,
    convalesce, allLaugh]

/-- The name shown in diagnostics. -/
def name : Event → String
  | becomeHappy => "BecomeHappy"
  | becomeSad => "BecomeSad"
  | becomeAngry => "BecomeAngry"
  | becomeEmbarrassed => "BecomeEmbarrassed"
  | acquireDuty => "AcquireDuty"
  | relieveDuty => "RelieveDuty"
  | settingDescription => "SettingDescription"
  | nearbyDescription => "NearbyDescription"
  | genericSettingDescription => "GenericSettingDescription"
  | characterDescription => "CharacterDescription"
  | characterFeaturesDescription => "CharacterFeaturesDescription"
  | characterReminder => "CharacterReminder"
  | torsoCostumeDescription => "TorsoCostumeDescription"
  | torsoCostumeReminder => "TorsoCostumeReminder"
  | feetCostumeDescription => "FeetCostumeDescription"
  | feetCostumeReminder => "FeetCostumeReminder"
  | poseDescription => "PoseDescription"
  | pickUp => "PickUp"
  | hold => "Hold"
  | contemplate => "Contemplate"
  | gestureAt => "GestureAt"
  | lookAt => "LookAt"
  | lookAround => "LookAround"
  | emote => "Emote"
  | stateDuty => "StateDuty"
  | greet => "Greet"
  | characterStaysHappy => "CharacterStaysHappy"
  | outOfEggs => "OutOfEggs"
  | hyperCrystalUsage => "HyperCrystalUsage"
  | introduceItem => "IntroduceItem"
  | askAboutItem => "AskAboutItem"
  | replyAboutItem => "ReplyAboutItem"
  | rememberItem => "RememberItem"
  | rumblingSound => "RumblingSound"
  | whatWasThatNoise => "WhatWasThatNoise"
  | caveIn => "CaveIn"
  | stunned => "Stunned"
  | buriedUnderRubble => "BuriedUnderRubble"
  | wasteNoTime => "WasteNoTime"
  | digOut => "DigOut"
  | appear => "Appear"
  | disappear => "Disappear"
  | noticeAntagonist => "NoticeAntagonist"
  | cackle => "Cackle"
  | antagonistBanter => "AntagonistBanter"
  | abduct => "Abduct"
  | panic => "Panic"
  | weMustFindThem => "WeMustFindThem"
  | locationHunch => "LocationHunch"
  | setCourse => "SetCourse"
  | weMustGoTo => "WeMustGoTo"
  | keepMoving => "KeepMoving"
  | turnCorner => "TurnCorner"
  | behindBars => "BehindBars"
  | rescue => "Rescue"
  | thank => "Thank"
  | bumpIntoForceField => "BumpIntoForceField"
  | whatWasThat => "WhatWasThat"
  | mustRetraceSteps => "MustRetraceSteps"
  | trip => "Trip"
  | drop => "Drop"
  | lose => "Lose"
  | oops => "Oops"
  | hunch => "Hunch"
  | lookBehind => "LookBehind"
  | find => "Find"
  | relief => "Relief"
  | attack => "Attack"
  | encounter => "Encounter"
  | goonBanter => "GoonBanter"
  | goonParley => "GoonParley"
  | genericBattle => "GenericBattle"
  | warCry => "WarCry"
  | unsheathe => "Unsheathe"
  | liftWeapon => "LiftWeapon"
  | bringDownWeapon => "BringDownWeapon"
  | weaponContact => "WeaponContact"
  | flyAcross => "FlyAcross"
  | tryToGetBehind => "TryToGetBehind"
  | bumpIntoAwkwardly => "BumpIntoAwkwardly"
  | blush => "Blush"
  | rushIntoFray => "RushIntoFray"
  | afterBattle => "AfterBattle"
  | afterBattleBanter => "AfterBattleBanter"
  | observeAfterBattle => "ObserveAfterBattle"
  | remindReport => "RemindReport"
  | ifWeGetHome => "IfWeGetHome"
  | pullAside => "PullAside"
  | wantToTalkToYou => "WantToTalkToYou"
  | whatIsIt => "WhatIsIt"
  | recallPastEvent => "RecallPastEvent"
  | sayNoMore => "SayNoMore"
  | preludeToKiss => "PreludeToKiss"
  | fidget => "Fidget"
  | facesCloseTogether => "FacesCloseTogether"
  | mushyStuff => "MushyStuff"
  | kiss => "Kiss"
  | andTheyKissed => "AndTheyKissed"
  | drone => "Drone"
  | travelTo => "TravelTo"
  | commentOnPlace => "CommentOnPlace"
  | takeReadings => "TakeReadings"
  | readingsBanter => "ReadingsBanter"
  | complimentAction => "ComplimentAction"
  | offerPromotion => "OfferPromotion"
  | ohYou => "OhYou"
  | refusePromotion => "RefusePromotion"
  | convalesce => "Convalesce"
  | allLaugh => "AllLaugh"

instance : Named Event := ⟨all, name⟩

/-- The mood that a beat puts its subject in. -/
def moodChange? : Event → Option Mood
  | becomeHappy => some .happy
  | becomeSad => some .sad
  | becomeAngry => some .angry
  | becomeEmbarrassed => some .embarrassed
  | _ => none

/-- A beat that only carries a mood or a duty on, and is never told. -/
def isTransient (e : Event) : Bool :=
  e.moodChange?.isSome || e = acquireDuty || e = relieveDuty

/-- A beat that ends in an exclamation mark. -/
def isExciting (e : Event) : Bool :=
  [caveIn, appear, kiss, andTheyKissed, behindBars, genericBattle].contains e

/-- A beat that always opens a paragraph. -/
def startsParagraph (e : Event) : Bool :=
  [facesCloseTogether, kiss, behindBars, genericBattle].contains e

/-- The templates for a costume that is one piece, where those differ. -/
def onePieceTemplates? : Event → Option (List String)
  | torsoCostumeDescription => some [
      "{subj.pronoun} {subj.was} {subj.wearing} {subj.torso_costume.indefinite}",
      "{subj.pronoun} had on {subj.torso_costume.indefinite}"]
  | torsoCostumeReminder => some [
      "{subj.possessive} {subj.torso_costume.name} <rustled|shimmered|swished> as {subj.he} moved",
      "{subj.pronoun} smoothed down {subj.his} {subj.torso_costume.name}"]
  | _ => none

/-- The templates that a beat is told by. -/
def templates : Event → List String
  | becomeHappy | becomeSad | becomeAngry | becomeEmbarrassed
  | acquireDuty | relieveDuty => []
  | settingDescription => [
      "it was <a bright|an ordinary|a quiet|a hectic> day {subj.preposition} {subj.definite}",
      "{subj.definite} <hummed with activity|was peaceful for once|looked the same as ever>"]
  | nearbyDescription => [
      "nearby, there was {obj.indefinite}",
      "{obj.indefinite} stood <close by|off to one side|in the corner>"]
  | genericSettingDescription => [
      "the {subj.light} glinted off every surface",
      "everything was bathed in {subj.light}",
      "somewhere, something <beeped|hissed|dripped>"]
  | characterDescription => [
      "{subj.definite} was {subj.stature}, with {subj.hair_length} {subj.hair_colour} hair and {subj.eye_colour} eyes",
      "{subj.definite}, {subj.stature}, tossed {subj.his} {subj.hair_length} {subj.hair_colour} hair and blinked {subj.his} {subj.eye_colour} eyes"]
  | characterFeaturesDescription => [
      "{subj.he} was known for {subj.his} {subj.feature_adj} {subj.feature}",
      "{subj.his} {subj.feature} was {subj.feature_adj}"]
  | characterReminder => [
      "the {subj.location.light} caught {subj.possessive} {subj.feature_adj} {subj.feature}",
      "{subj.pronoun} leaned against {subj.location.nearby_scenery.definite}, {subj.his} {subj.feature_adj} {subj.feature} catching the {subj.location.light}"]
  | torsoCostumeDescription => [
      "{subj.pronoun} {subj.was} {subj.wearing} {subj.torso_costume.indefinite} and {subj.legs_costume.indefinite}",
      "{subj.pronoun} had on {subj.torso_costume.indefinite} over {subj.legs_costume.indefinite}"]
  | torsoCostumeReminder => [
      "{subj.possessive} {subj.torso_costume.name} and {subj.legs_costume.name} <rustled|shimmered|swished> as {subj.he} moved",
      "{subj.pronoun} tugged at {subj.his} {subj.legs_costume.name}"]
  | feetCostumeDescription => [
      "on {subj.his} feet {subj.pronoun} wore {subj.feet_costume.indefinite}",
      "{subj.pronoun} had {subj.feet_costume.indefinite} on {subj.his} feet"]
  | feetCostumeReminder => [
      "{subj.possessive} {subj.feet_costume.name} <squeaked|clicked|clomped> on the floor"]
  | poseDescription => [
      "{subj.pronoun} {subj.was} <leaning against|sitting on|standing beside> {obj.definite}",
      "{subj.pronoun} {subj.was} <lounging|posing dramatically> by {obj.definite}"]
  | pickUp => [
      "{subj.pronoun} picked up {obj.indefinite}",
      "{subj.pronoun} <grabbed|scooped up> {obj.indefinite}"]
  | hold => [
      "{subj.pronoun} held {obj.definite} <up to the light|at arm's length|in {subj.his} hand>"]
  | contemplate => [
      "{subj.pronoun} <gazed at|studied|contemplated> {obj.definite} <thoughtfully|for a long moment|with a faraway look>",
      "{subj.pronoun} turned {obj.definite} over in {subj.his} hands {subj.adverb}"]
  | gestureAt => [
      "{subj.pronoun} <pointed at|waved at|gestured towards> {obj.accusative}"]
  | lookAt => [
      "{subj.pronoun} <looked at|glanced at|peered at|stared at> {obj.accusative} {subj.adverb}"]
  | lookAround => [
      "{subj.pronoun} looked around {subj.adverb}",
      "{subj.pronoun} <surveyed|scanned> the area {subj.adverb}"]
  | emote => [
      "{subj.pronoun} {subj.emoted}"]
  | stateDuty => [
      "\"We have to {subj.pick_duty.name}!\" {subj.pronoun} {subj.shouted}",
      "\"Don't forget, we must {subj.pick_duty.name},\" {subj.pronoun} {subj.said} {subj.adverb}"]
  | greet => [
      "\"Hello, {obj.name}!\" {subj.pronoun} {subj.said}",
      "\"Morning, {obj.name},\" {subj.pronoun} {subj.said} {subj.adverb}"]
  | characterStaysHappy => [
      "{subj.pronoun} refused to let anything spoil {subj.his} good mood",
      "{subj.pronoun} kept smiling<| anyway| regardless>"]
  | outOfEggs => [
      "\"We're out of space eggs again,\" {subj.pronoun} {subj.said}",
      "\"Who finished the space eggs?\" {subj.pronoun} {subj.said} {subj.adverb}"]
  | hyperCrystalUsage => [
      "\"The hyper crystals are running <low|hot|strangely>,\" {subj.pronoun} {subj.said} {subj.adverb}"]
  | introduceItem => [
      "{subj.pronoun} was <carrying|holding|fiddling with> {obj.indefinite}",
      "{subj.pronoun} <showed off|held up> {obj.indefinite}"]
  | askAboutItem => [
      "\"What's that you've got there?\" {subj.pronoun} {subj.said}",
      "\"Is that {obj.indefinite}?\" {subj.pronoun} {subj.said} {subj.adverb}"]
  | replyAboutItem => [
      "\"Just a little something I picked up,\" {subj.pronoun} {subj.said} to {obj.accusative}",
      "\"Oh, this? It's nothing,\" {subj.pronoun} {subj.said} {subj.adverb}"]
  | rememberItem => [
      "\"Good thing you had {object2.definite}, {obj.name},\" {subj.pronoun} {subj.said}",
      "\"Remember when you showed us {object2.definite}, {obj.name}?\" {subj.pronoun} {subj.said} {subj.adverb}"]
  | rumblingSound => [
      "there was a <low|deep|terrible> rumbling sound",
      "a <faint|menacing> rumble <shook|filled> the air"]
  | whatWasThatNoise => [
      "\"What was that noise?\" {subj.pronoun} {subj.said}",
      "\"Did anyone else hear that?\" {subj.pronoun} {subj.said} {subj.adverb}"]
  | caveIn => [
      "suddenly, {subj.definite} <caved in|collapsed|came crashing down>"]
  | stunned => [
      "{subj.pronoun} {subj.was} stunned",
      "{subj.pronoun} <reeled|staggered>, dazed"]
  | buriedUnderRubble => [
      "{subj.pronoun} {subj.was} buried under <the rubble|a pile of debris|tons of rock>"]
  | wasteNoTime => [
      "{subj.pronoun} <wasted no time|sprang into action>"]
  | digOut => [
      "{subj.pronoun} dug {obj.accusative} out of the rubble",
      "{subj.pronoun} <heaved|hauled> rocks aside to free {obj.accusative}"]
  | appear => [
      "suddenly, {subj.indefinite} appeared<| in a puff of smoke| out of nowhere>"]
  | disappear => [
      "{subj.pronoun} <vanished|disappeared|teleported away> with {obj.accusative}"]
  | noticeAntagonist => [
      "\"It's {obj.definite}!\" {subj.pronoun} {subj.shouted}",
      "\"Look out, it's {obj.definite}!\" {subj.pronoun} {subj.shouted}"]
  | cackle => [
      "{subj.pronoun} <cackled|laughed a horrible laugh|sniggered> {subj.adverb}"]
  | antagonistBanter => [
      "\"At last, the Star Patrol is in my grasp!\" {subj.pronoun} {subj.said} {subj.adverb}",
      "\"You fools will never stop me!\" {subj.pronoun} {subj.shouted}",
      "\"Did you really think you could escape me?\" {subj.pronoun} {subj.said}"]
  | abduct => [
      "{subj.pronoun} <grabbed|seized|snatched> {obj.accusative}",
      "{subj.pronoun} threw a net over {obj.accusative}"]
  | panic => [
      "\"<Oh no|Help|What do we do>?\" {subj.pronoun} {subj.shouted}",
      "{subj.pronoun} panicked"]
  | weMustFindThem => [
      "\"We have to find {obj.accusative}!\" {subj.pronoun} {subj.shouted}",
      "\"We must rescue {obj.name}!\" {subj.pronoun} {subj.said} {subj.adverb}"]
  | locationHunch => [
      "\"I bet {obj.pronoun} {obj.was} taken to {object2.definite},\" {subj.pronoun} {subj.said}",
      "\"My instincts tell me {obj.name} is in {object2.definite},\" {subj.pronoun} {subj.said} {subj.adverb}"]
  | setCourse => [
      "\"Set a course for {obj.definite}!\" {subj.pronoun} {subj.shouted}",
      "{subj.pronoun} set a course for {obj.definite}"]
  | weMustGoTo => [
      "\"We must go to {obj.definite}!\" {subj.pronoun} {subj.shouted}",
      "\"To {obj.definite}!\" {subj.pronoun} {subj.said} {subj.adverb}"]
  | keepMoving => [
      "\"Keep moving,\" {subj.pronoun} {subj.said}",
      "\"This way!\" {subj.pronoun} {subj.shouted}"]
  | turnCorner => [
      "{subj.pronoun} turned a corner",
      "{subj.pronoun} <crept|hurried> down a long corridor"]
  | behindBars => [
      "there, behind <a force field|glowing bars>, was {subj.definite}"]
  | rescue => [
      "{subj.pronoun} <broke open|smashed> the cage and freed {obj.accusative}",
      "together, {subj.pronoun} freed {obj.accusative}"]
  | thank => [
      "\"Thanks, {obj.name}!\" {subj.pronoun} {subj.said}",
      "\"I owe you one, {obj.name},\" {subj.pronoun} {subj.said} {subj.adverb}"]
  | bumpIntoForceField => [
      "{subj.pronoun} walked straight into an invisible force field",
      "{subj.pronoun} bumped into a <shimmering|crackling> force field"]
  | whatWasThat => [
      "\"What was that?\" {subj.pronoun} {subj.shouted}"]
  | mustRetraceSteps => [
      "\"We'll have to <find another way|go back the way we came>,\" {subj.pronoun} {subj.said} {subj.adverb}"]
  | trip => [
      "{subj.pronoun} tripped <over {subj.his} own feet|on a loose panel>",
      "{subj.pronoun} stumbled"]
  | drop => [
      "{subj.pronoun} dropped {obj.definite}",
      "{obj.definite} slipped out of {subj.possessive} hands"]
  | lose => [
      "{subj.definite} <rolled away|bounced into a crevice|skittered out of sight>",
      "{subj.definite} {subj.was} nowhere to be seen"]
  | oops => [
      "\"Oops!\" {subj.pronoun} {subj.said}",
      "\"Oh no, I've lost it!\" {subj.pronoun} {subj.shouted}"]
  | hunch => [
      "\"I have a hunch,\" {subj.pronoun} {subj.said} {subj.adverb}",
      "{subj.pronoun} had a sudden hunch"]
  | lookBehind => [
      "{subj.pronoun} looked behind {obj.definite}",
      "{subj.pronoun} peeked under {obj.definite}"]
  | find => [
      "{subj.pronoun} found {obj.definite}",
      "{subj.pronoun} spotted {obj.definite} and snatched it up"]
  | relief => [
      "\"<Phew|Thank goodness>!\" {subj.pronoun} {subj.said}"]
  | attack => [
      "{subj.indefinite} <attacked|ambushed|leapt out at> {obj.accusative}"]
  | encounter => [
      "{obj.pronoun} <came face to face with|ran into|stumbled upon> {subj.indefinite}"]
  | goonBanter => [
      "\"{obj.definite} again!\" {subj.pronoun} {subj.shouted}",
      "\"Oh no, it's {obj.indefinite}!\" {subj.pronoun} {subj.said}"]
  | goonParley => [
      "\"{subj.gibberish}!\" <jabbered|squawked> one of {subj.definite}",
      "{subj.definite} chattered something that sounded like \"{subj.gibberish}\""]
  | genericBattle => [
      "a <fierce|furious|ridiculous> battle <ensued|broke out>",
      "fists and ray guns flew in every direction"]
  | warCry => [
      "\"{subj.war_cry}!\" {subj.pronoun} {subj.shouted}"]
  | unsheathe => [
      "{subj.pronoun} <drew|unsheathed|whipped out> {subj.his} {obj.name}"]
  | liftWeapon => [
      "{subj.pronoun} raised {obj.definite} high above {subj.his} head"]
  | bringDownWeapon => [
      "{subj.motion}{subj.pronoun} swung {obj.definite} <in a wide arc|with all {subj.his} might>"]
  | weaponContact => [
      "{subj.definite} <smashed into|connected with|walloped> {obj.definite}"]
  | flyAcross => [
      "{subj.definite} went flying across the room",
      "{subj.definite} <sailed|tumbled> through the air"]
  | tryToGetBehind => [
      "{subj.pronoun} tried to <sneak|creep> up behind {obj.definite}"]
  | bumpIntoAwkwardly => [
      "{subj.pronoun} bumped into {obj.accusative} awkwardly",
      "{subj.pronoun} <collided with|stumbled into> {obj.accusative}"]
  | blush => [
      "{subj.pronoun} blushed <furiously|a deep crimson|prettily>"]
  | rushIntoFray => [
      "{subj.pronoun} rushed into the fray",
      "{subj.pronoun} charged {subj.simile}"]
  | afterBattle => [
      "{subj.definite} <fled|retreated|scattered> in <disarray|terror|confusion>"]
  | afterBattleBanter => [
      "\"That'll teach them!\" {subj.pronoun} {subj.said}",
      "\"Well, that was fun,\" {subj.pronoun} {subj.said} {subj.adverb}"]
  | observeAfterBattle => [
      "\"Those {obj.name} must have been sent by {object2.definite},\" {subj.pronoun} {subj.said} {subj.adverb}"]
  | remindReport => [
      "\"We should report this to <Star Command|the Admiral>,\" {subj.pronoun} {subj.said}"]
  | ifWeGetHome => [
      "\"If we ever get home...\" {subj.pronoun} {subj.said} {subj.adverb}"]
  | pullAside => [
      "{subj.pronoun} pulled {obj.accusative} aside",
      "{subj.pronoun} took {obj.accusative} by the arm"]
  | wantToTalkToYou => [
      "\"{obj.name}, can I talk to you about something?\" {subj.pronoun} {subj.said} {subj.adverb}"]
  | whatIsIt => [
      "\"What is it?\" {subj.pronoun} {subj.said} {subj.adverb}"]
  | recallPastEvent => [
      "\"About what happened back there...\" {subj.pronoun} {subj.said}"]
  | sayNoMore => [
      "\"Say no more,\" {subj.pronoun} {subj.said} {subj.adverb}"]
  | preludeToKiss => [
      "{subj.pronoun} gazed deep into {obj.possessive} {obj.eye_colour} eyes"]
  | fidget => [
      "{subj.pronoun} fidgeted {subj.adverb}"]
  | facesCloseTogether => [
      "{subj.possessive} face was very close to {obj.possessive}"]
  | mushyStuff => [
      "\"I've never felt this way before,\" {subj.pronoun} {subj.said}",
      "\"Your {obj.feature} is so {obj.feature_adj},\" {subj.pronoun} {subj.said} {subj.adverb}"]
  | kiss => [
      "{subj.pronoun} kissed {obj.accusative}",
      "{subj.pronoun} pulled {obj.accusative} close and kissed {obj.accusative}"]
  | andTheyKissed => [
      "and they kissed",
      "and then they kissed<| passionately| for a very long time>"]
  | drone => [
      "a <buzzing|whirring> drone flew past {subj.possessive} head",
      "suddenly a maintenance drone <whizzed|zoomed> past {subj.accusative}"]
  | travelTo => [
      "{subj.pronoun} <travelled|made their way|headed> to {obj.definite}"]
  | commentOnPlace => [
      "\"What a dump,\" {subj.pronoun} {subj.said}",
      "\"I don't like the look of this place,\" {subj.pronoun} {subj.said} {subj.adverb}"]
  | takeReadings => [
      "{subj.pronoun} took some readings with {subj.his} tricorder",
      "{subj.pronoun} <scanned|analysed> the surroundings"]
  | readingsBanter => [
      "\"Well? What do the readings say?\" {subj.pronoun} {subj.said}"]
  | complimentAction => [
      "\"Well done, {obj.name}!\" {subj.pronoun} {subj.said}",
      "\"{obj.name}, you saved us all,\" {subj.pronoun} {subj.said} {subj.adverb}"]
  | offerPromotion => [
      "\"I'm promoting you to {obj.next_rank}!\" {subj.pronoun} {subj.said}"]
  | ohYou => [
      "\"Oh, you!\" {subj.pronoun} {subj.said} {subj.adverb}"]
  | refusePromotion => [
      "\"I couldn't possibly accept, I'm happy just being {subj.rank},\" {subj.pronoun} {subj.said}"]
  | convalesce => [
      "{subj.pronoun} <rested|put {subj.his} feet up|took a long hot bath>"]
  | allLaugh => [
      "everyone laughed",
      "everyone <laughed|chuckled> <heartily|for a long time>"]

/-- Does a template open with speech? -/
def opensWithSpeech (template : String) : Bool :=
  template.toList.head? == some '"'

/-- A beat that can be joined to its neighbour by `and`: it is told, calmly and inside a paragraph, and
never as speech. -/
def isConjoinable (e : Event) : Bool :=
  !e.isTransient && !e.isExciting && !e.startsParagraph && e != characterDescription
    && !e.templates.isEmpty && !e.templates.any opensWithSpeech

theorem mem_all (e : Event) : e ∈ all := by
  cases e <;> decide

end Event

end SpaceOpera
