import SpaceOpera.Editor.States
import SpaceOpera.Proofs.Chance.Outcomes
import SpaceOpera.Proofs.Plot.Threads
import SpaceOpera.Proofs.Story.Shape
import SpaceOpera.Story.Beats

/-!
# The duties that developments are told with

Whoever is left behind by an opening takes on the duty to bring the victim back, and whoever brings it back
is done with that duty.  Of all that a development is told with, its `errands` are the duty events, in their
order and whatever is drawn (`beatsOf_tells`); so the duty events of a story are the errands of its plot, one
development after the other (`ofPlot_tells`).
-/

namespace SpaceOpera

open StoryNode (ofEvent sequence)

/-! ## Duty events -/

/-- The events of duties taken on and done. -/
def Node.dutyEvents (n : StoryNode) : List StoryNode :=
  n.events.filter isDutyEvent

section DutyEvents

variable {e : Event} {a : Attributes} {s o : Value} {cs : List StoryNode} {n : StoryNode}

theorem dutyEvents_event (h : e ≠ .acquireDuty) (h' : e ≠ .relieveDuty) :
    Node.dutyEvents ⟨.event e, a, []⟩ = [] := by
  rw [Node.dutyEvents, events_beat, List.filter_eq_nil_iff]
  simp [isDutyEvent, Node.event?, StoryKind.event?, h, h']

@[simp]
theorem dutyEvents_ofEvent (h : e ≠ .acquireDuty) (h' : e ≠ .relieveDuty) :
    (ofEvent e).dutyEvents = [] :=
  dutyEvents_event h h'

@[simp]
theorem dutyEvents_beat (h : e ≠ .acquireDuty) (h' : e ≠ .relieveDuty) :
    (beat e s).dutyEvents = [] :=
  dutyEvents_event h h'

@[simp]
theorem dutyEvents_beatOn (h : e ≠ .acquireDuty) (h' : e ≠ .relieveDuty) :
    (beatOn e s o).dutyEvents = [] :=
  dutyEvents_event h h'

@[simp]
theorem dutyEvents_beatOn_set {r : Role} {v : Value} (h : e ≠ .acquireDuty)
    (h' : e ≠ .relieveDuty) : ((beatOn e s o).set r v).dutyEvents = [] :=
  dutyEvents_event h h'

@[simp]
theorem dutyEvents_acquireDuty :
    (beatOn .acquireDuty s o).dutyEvents = [beatOn .acquireDuty s o] := by
  unfold Node.dutyEvents beatOn beat
  exact congrArg (List.filter isDutyEvent) (events_beat _ _)

@[simp]
theorem dutyEvents_relieveDuty :
    (beatOn .relieveDuty s o).dutyEvents = [beatOn .relieveDuty s o] := by
  unfold Node.dutyEvents beatOn beat
  exact congrArg (List.filter isDutyEvent) (events_beat _ _)

theorem dutyEvents_of_not_event (h : n.event? = none) :
    n.dutyEvents = n.children.flatMap Node.dutyEvents := by
  rw [Node.dutyEvents, events_of_not_event h, List.filter_flatMap]
  rfl

@[simp]
theorem dutyEvents_sequence : (sequence cs).dutyEvents = cs.flatMap Node.dutyEvents :=
  dutyEvents_of_not_event rfl

@[simp]
theorem dutyEvents_each_nil {os : List Object} {f : Object → StoryNode}
    (h : ∀ o ∈ os, (f o).dutyEvents = []) : (each os f).flatMap Node.dutyEvents = [] := by
  rw [each, List.flatMap_map, List.flatMap_eq_nil_iff]
  exact h

@[simp]
theorem dutyEvents_each {os : List Object} {f : Object → StoryNode} :
    (each os f).flatMap Node.dutyEvents = os.flatMap fun o => (f o).dutyEvents := by
  rw [each, List.flatMap_map]

end DutyEvents

/-! ## Errands -/

/-- The duty of those who are left behind. -/
def Thread.duty : Thread → Object → Object
  | abduction, o | burial, o => o.rescueDuty
  | loss, o => o.retrieveDuty

/-- What a development is told with of duties: an opening charges some with one, and a closing clears
some of it. -/
def Node.errands (n : PlotNode) : List StoryNode :=
  match n.development?.map Development.move with
  | some (.opens t) =>
    (n.objectIn t.victimRole).toList.flatMap fun o =>
      (t.charged n).map fun b : Object => beatOn .acquireDuty b (t.duty o)
  | some (.closes t) =>
    (n.objectIn .object).toList.flatMap fun o =>
      (t.cleared n).map fun b : Object => beatOn .relieveDuty b (t.duty o)
  | _ => []

section Errands

variable {n : PlotNode} {o : Object} {t : Thread}

theorem errands_opening (hd : n.development? = some t.opening) (ho : n.objectIn t.victimRole = some o) :
    n.errands = (t.charged n).map fun b : Object => beatOn .acquireDuty b (t.duty o) := by
  unfold Node.errands
  rw [hd, Option.map_some, t.move_opening]
  dsimp only
  rw [ho, Option.toList_some, List.flatMap_singleton]

theorem errands_closing (hd : n.development? = some t.closing) (ho : n.objectIn .object = some o) :
    n.errands = (t.cleared n).map fun b : Object => beatOn .relieveDuty b (t.duty o) := by
  unfold Node.errands
  rw [hd, Option.map_some, t.move_closing]
  dsimp only
  rw [ho, Option.toList_some, List.flatMap_singleton]

theorem errands_of_none (h : n.development? = none) : n.errands = [] := by
  unfold Node.errands
  rw [h]
  rfl

theorem errands_of_quiet {d : Development} (hd : n.development? = some d)
    (h : ∀ t, d.move ≠ .opens t ∧ d.move ≠ .closes t) : n.errands = [] := by
  unfold Node.errands
  rw [hd, Option.map_some]
  cases hmove : d.move with
  | opens t => exact absurd hmove (h t).1
  | closes t => exact absurd hmove (h t).2
  | _ => rfl

end Errands

/-! ## Tellings -/

/-- The nodes have no duty event. -/
abbrev Idle (es : List StoryNode) : Prop :=
  es.flatMap Node.dutyEvents = []

/-- If the telling succeeds, these are its duty events. -/
def Tells (ds : List StoryNode) (t : Attempt PlotError (List StoryNode)) : Prop :=
  Ends (fun _ => True) (fun _ => True) (fun es => es.flatMap Node.dutyEvents = ds) t

section Tells

variable {α : Type} {ds : List StoryNode} {p : Participants} {r : Role}

theorem Tells.pure {es : List StoryNode} (h : es.flatMap Node.dutyEvents = ds) :
    Tells ds (Pure.pure es) :=
  Ends.pure h

theorem Tells.bind {t : Attempt PlotError α} {f : α → Attempt PlotError (List StoryNode)}
    (hf : ∀ a, Tells ds (f a)) : Tells ds (t >>= f) :=
  Ends.bind (Ends.anything fun _ => trivial) fun a _ => hf a

/-- A telling goes on with the one who takes the role. -/
theorem Tells.one {f : Object → Attempt PlotError (List StoryNode)}
    (hf : ∀ o, p.node.objectIn r = some o → Tells ds (f o)) :
    Tells ds ((liftM (p.one r) : Attempt PlotError Object) >>= f) := by
  refine Ends.bind (P := fun o => p.node.objectIn r = some o) (Ends.liftExcept ?_) hf
  unfold Participants.one
  split
  · assumption
  · trivial

end Tells

section Developments

variable {n : PlotNode}

theorem kidnapping_tells (hd : n.development? = some .kidnapping) :
    Tells n.errands (beatsOf ⟨n, .kidnapping⟩) := by
  unfold beatsOf
  refine .bind fun perp => .one fun abductee habductee => .bind fun noticer => .pure ?_
  rw [errands_opening (t := .abduction) hd habductee, List.map_eq_flatMap]
  simp [Thread.charged, Thread.duty]

theorem rescue_tells (hd : n.development? = some .rescue) :
    Tells n.errands (beatsOf ⟨n, .rescue⟩) := by
  unfold beatsOf
  refine .bind fun rescuers => .one fun abductee habductee => .bind fun leader => .pure ?_
  rw [errands_closing (t := .abduction) hd habductee, List.map_eq_flatMap]
  simp [Thread.cleared, Thread.duty, Participants.subjects]

theorem loseItem_tells (hd : n.development? = some .loseItem) :
    Tells n.errands (beatsOf ⟨n, .loseItem⟩) := by
  unfold beatsOf
  refine .one fun s hs => .one fun item hitem => ?_
  rw [errands_opening (t := .loss) hd hitem]
  have hs : n.membersOf .subject = [s] := Node.membersOf_of_objectIn hs
  refine Ends.bind (P := fun reactions : List (List StoryNode) =>
    reactions.flatten.flatMap Node.dutyEvents =
      (n.membersOf .bystanders).map fun b : Object => beatOn .acquireDuty b item.retrieveDuty) ?_
    fun reactions hreactions => Tells.pure ?_
  · refine (Ends.mapM (S := fun b ms =>
      ms.flatMap Node.dutyEvents = [beatOn .acquireDuty (Value.object b) item.retrieveDuty]) _
        fun b _ => Ends.drawn ?_).imp (fun _ h => h) fun reactions hreactions => ?_
    · refine (Yields.anything _).bind fun looks _ => Yields.pure ?_
      cases looks <;> simp
    · change List.Forall₂ _ (n.membersOf .bystanders) _ at hreactions
      generalize n.membersOf .bystanders = os at hreactions ⊢
      induction hreactions with
      | nil => rfl
      | cons hreaction _ ih =>
        rw [List.flatten_cons, List.flatMap_append, hreaction, ih]
        rfl
  · simp [hreactions, hs, Thread.charged, Thread.duty]

theorem recoverItem_tells (hd : n.development? = some .recoverItem) :
    Tells n.errands (beatsOf ⟨n, .recoverItem⟩) := by
  unfold beatsOf
  refine .one fun s hs => .one fun item hitem => .bind fun setting => .bind fun scenery =>
    .bind fun relieved => .pure ?_
  rw [errands_closing (t := .loss) hd hitem, List.map_eq_flatMap]
  have hs : n.membersOf .subject = [s] := Node.membersOf_of_objectIn hs
  cases scenery <;> cases relieved <;> simp [Thread.cleared, Thread.duty, hs]

theorem trappedInRubble_tells (hd : n.development? = some .trappedInRubble) :
    Tells n.errands (beatsOf ⟨n, .trappedInRubble⟩) := by
  unfold beatsOf
  refine .one fun s hs => .bind fun setting => ?_
  rw [errands_opening (t := .burial) hd hs, List.map_eq_flatMap]
  dsimp only
  split
  all_goals
    refine .bind fun roof => .bind fun listener => .pure ?_
    simp [Thread.charged, Thread.duty]

theorem extractedFromRubble_tells (hd : n.development? = some .extractedFromRubble) :
    Tells n.errands (beatsOf ⟨n, .extractedFromRubble⟩) := by
  unfold beatsOf
  refine .one fun trapped htrapped => .pure ?_
  rw [errands_closing (t := .burial) hd htrapped, List.map_eq_flatMap]
  simp [Thread.cleared, Thread.duty, Participants.subjects]

/-! ### Developments without duties -/

theorem rollPose_idle (s : Value) :
    Yields (fun _ => True) Idle ((fun e => [beat e s]) <$> rollPose) := by
  unfold rollPose
  refine Yields.map (P := fun e => e ≠ .acquireDuty ∧ e ≠ .relieveDuty) ?_ fun e he => ?_
  · refine (Yields.anything _).bind fun _ _ => Yields.ite (fun _ => Yields.pure (by simp)) fun _ => ?_
    refine (Yields.anything _).bind fun _ _ => ?_
    exact Yields.ite (fun _ => Yields.pure (by simp)) fun _ => Yields.pure (by simp)
  · simp [Idle, he.1, he.2]

theorem introduce_idle (seen os : List Object) :
    Yields (fun _ => True) Idle (introduce seen os) := by
  induction os generalizing seen with
  | nil => exact Yields.pure rfl
  | cons s rest ih =>
    -- What comes next is the same for every outcome of the draws before it.
    have hafter : ∀ (pose : List StoryNode) (greeted : Option Object), Idle pose →
        Yields (fun _ => True) Idle (do
          let greeting := (greeted.map fun other => beatOn .greet s other).toList
          let more ← introduce (seen ++ [s]) rest
          return pose ++ greeting ++ more) := by
      intro pose greeted hpose
      refine (ih _).bind fun more hmore => Yields.pure ?_
      unfold Idle at *
      cases greeted <;> simp [hpose, hmore]
    have hgreeted : ∀ (pose : List StoryNode) (greets : Bool), Idle pose →
        Yields (fun _ => True) Idle (do
          let greeted ← if greets then Roll.choose seen else pure none
          let greeting := (greeted.map fun other => beatOn .greet s other).toList
          let more ← introduce (seen ++ [s]) rest
          return pose ++ greeting ++ more) := by
      intro pose greets hpose
      exact Yields.ite (fun _ => (Yields.anything _).bind fun greeted _ => hafter pose greeted hpose)
        fun _ => hafter pose none hpose
    have hposed : ∀ pose : List StoryNode, Idle pose → Yields (fun _ => True) Idle (do
          let greets ← if seen.isEmpty then pure false else Roll.chance 66
          let greeted ← if greets then Roll.choose seen else pure none
          let greeting := (greeted.map fun other => beatOn .greet s other).toList
          let more ← introduce (seen ++ [s]) rest
          return pose ++ greeting ++ more) := by
      intro pose hpose
      exact Yields.ite (fun _ => hgreeted pose false hpose)
        fun _ => (Yields.anything _).bind fun greets _ => hgreeted pose greets hpose
    rw [introduce]
    refine (Yields.anything _).bind fun posed _ => Yields.ite (fun _ => ?_) fun _ => ?_
    · exact (rollPose_idle s).bind hposed
    · exact hposed [] rfl

theorem locateAbductee_idle : Tells [] (beatsOf ⟨n, .locateAbductee⟩) := by
  unfold beatsOf
  refine .bind fun abductee => .bind fun location => .bind fun taken => ?_
  dsimp only
  split
  all_goals
    refine .bind fun taken' => .bind fun taken'' => .bind fun setting => .pure ?_
    split <;> simp

theorem convalescence_idle : Tells [] (beatsOf ⟨n, .convalescence⟩) := by
  unfold beatsOf
  refine .bind fun taken => .bind fun taken' => .pure ?_
  obtain ⟨lead, rest⟩ := taken
  obtain ⟨optimist, others⟩ := taken'
  cases lead with
  | none => simp
  | some lead =>
    cases optimist with
    | none => simp
    | some optimist =>
      dsimp only
      split <;> simp

theorem encounterNewSetting_idle : Tells [] (beatsOf ⟨n, .encounterNewSetting⟩) := by
  unfold beatsOf
  refine .bind fun taken => .bind fun taken' => ?_
  obtain ⟨snarker, others⟩ := taken
  obtain ⟨reader, others'⟩ := taken'
  cases snarker <;> cases reader <;> exact .pure (by simp)

/-- A development that neither opens nor closes a thread is told without duties. -/
theorem beatsOf_idle {d : Development} (h : ∀ t, d.move ≠ .opens t ∧ d.move ≠ .closes t) :
    Tells [] (beatsOf ⟨n, d⟩) := by
  cases d with
  | kidnapping | loseItem | trappedInRubble => exact absurd rfl (h _).1
  | rescue | recoverItem | extractedFromRubble => exact absurd rfl (h _).2
  | introduction =>
    unfold beatsOf
    refine Ends.bind (Ends.drawn (introduce_idle _ _)) fun entrances hentrances => .pure ?_
    simp [hentrances]
  | itemForeshadowed | itemRecalled =>
    unfold beatsOf
    refine .bind fun holder => .bind fun item => .bind fun asker => .pure ?_
    simp
  | convalescence => exact convalescence_idle
  | allLaugh => exact .pure (by simp)
  | locateAbductee => exact locateAbductee_idle
  | wayBlocked =>
    unfold beatsOf
    refine .bind fun taken => .bind fun taken' => .pure ?_
    simp
  | goonAmbush =>
    unfold beatsOf
    refine .bind fun party => .bind fun goons => .pure ?_
    simp
  | goonEncounter =>
    unfold beatsOf
    refine .bind fun party => .bind fun goons => .bind fun speaker => .pure ?_
    simp
  | protagonistAttack =>
    unfold beatsOf
    refine .bind fun goons => .bind fun fighter => ?_
    split
    · exact .pure (by simp)
    · exact .bind fun s => .pure (by simp)
  | awkwardCombat =>
    unfold beatsOf
    refine .bind fun goons => .bind fun taken => .bind fun taken' => .pure ?_
    simp
  | vanquished =>
    unfold beatsOf
    refine .bind fun goons => .bind fun villain => .bind fun speaker => .bind fun taken =>
      .bind fun taken' => .pure ?_
    simp
  | awkwardTension | romanticResolution =>
    unfold beatsOf
    refine .bind fun a => .bind fun b => .pure ?_
    simp
  | romanticTension =>
    unfold beatsOf
    refine .bind fun a => .bind fun b => .bind fun rounds => .pure ?_
    simp
  | drone =>
    unfold beatsOf
    refine .bind fun s => .pure ?_
    simp
  | contemplateItem =>
    unfold beatsOf
    refine .bind fun s => .bind fun item => .pure ?_
    simp
  | journey =>
    unfold beatsOf
    refine .bind fun party => .bind fun goal => .pure ?_
    simp
  | encounterNewSetting => exact encounterNewSetting_idle

/-- Whatever is drawn, a development is told with its errands and no other duty events. -/
theorem beatsOf_tells {d : Development} (hd : n.development? = some d) :
    Tells n.errands (beatsOf ⟨n, d⟩) := by
  by_cases hquiet : ∀ t, d.move ≠ .opens t ∧ d.move ≠ .closes t
  · rw [errands_of_quiet hd hquiet]
    exact beatsOf_idle hquiet
  · cases d with
    | kidnapping => exact kidnapping_tells hd
    | rescue => exact rescue_tells hd
    | loseItem => exact loseItem_tells hd
    | recoverItem => exact recoverItem_tells hd
    | trappedInRubble => exact trappedInRubble_tells hd
    | extractedFromRubble => exact extractedFromRubble_tells hd
    | _ => exact absurd (by simp [Development.move]) hquiet

end Developments

/-! ## Plots -/

theorem createEvents_tells (n : PlotNode) : Tells n.errands (createEvents n) := by
  unfold createEvents
  split
  · rename_i d hd
    exact beatsOf_tells hd
  · rename_i hd
    rw [errands_of_none hd]
    exact Tells.pure rfl

theorem sceneOf_tells (n : PlotNode) :
    Ends (fun _ => True) (fun _ => True) (fun c => c.dutyEvents = n.errands) (sceneOf n) := by
  unfold sceneOf
  split
  · refine Ends.bind (createEvents_tells n) fun events hevents => Ends.pure ?_
    rw [dutyEvents_of_not_event rfl]
    simpa [StoryNode.scene] using hevents
  · exact Ends.throw trivial

/-- The duty events of a story are the errands of its plot. -/
theorem ofPlot_tells (plot : PlotNode) :
    Ends (fun _ => True) (fun _ => True)
      (fun story => story.dutyEvents = plot.flatten.developments.flatMap Node.errands)
      (Story.ofPlot plot) := by
  unfold Story.ofPlot
  refine (Ends.mapM _ fun m _ => sceneOf_tells m).bind fun scenes hscenes => Ends.pure ?_
  rw [dutyEvents_of_not_event rfl]
  change scenes.flatMap Node.dutyEvents = _
  generalize plot.flatten.developments = ms at hscenes ⊢
  induction hscenes with
  | nil => rfl
  | cons hscene _ ih => rw [List.flatMap_cons, List.flatMap_cons, hscene, ih]

end SpaceOpera
