import SpaceOpera.Proofs.Chance.Outcomes
import SpaceOpera.Proofs.Plotter.Blindness
import SpaceOpera.Story.Beats

/-!
# Stories without varied choices

A plot is turned into a story, development by development, by draws that do not look at the bags of options, and
what can go wrong is that nobody takes a role (`ofPlot_recited`).  So the bags make no difference to the story
(`ofPlot_blind`), and nothing but a missing role keeps a plot from becoming one (`ofPlot_misses`).
-/

namespace SpaceOpera

/-- The computation draws without a look at the bags, and fails only for a role that nobody takes. -/
inductive Recited : {α : Type} → Attempt PlotError α → Prop
  | pure {α : Type} (a : α) : Recited (Pure.pure a)
  | drawn {α : Type} {roll : Roll α} (h : Blind roll) : Recited (liftM roll)
  | missing {α : Type} (d : Development) (r : Role) :
    Recited (throw (.missingRole d r) : Attempt PlotError α)
  | bind {α β : Type} {t : Attempt PlotError α} {f : α → Attempt PlotError β} (h : Recited t)
    (hf : ∀ a, Recited (f a)) : Recited (t >>= f)

namespace Recited

variable {α β : Type} {t : Attempt PlotError α} {f : α → Attempt PlotError β}

theorem blind (h : Recited t) : Blind t := by
  induction h with
  | pure a => exact .pure a
  | drawn h => exact h.drawn
  | missing d r => exact .throw _
  | bind _ _ ih ihf => exact ih.bind ihf

theorem ends (h : Recited t) :
    Ends (fun _ => True) (fun e => ∃ d r, e = .missingRole d r) (fun _ => True) t := by
  induction h with
  | pure a => exact Ends.pure trivial
  | drawn h => exact Ends.drawn (Yields.anything _)
  | missing d r => exact Ends.throw ⟨d, r, rfl⟩
  | bind _ _ ih ihf => exact ih.bind fun a _ => ihf a

theorem mapM (h : ∀ a, Recited (f a)) (l : List α) : Recited (l.mapM f) := by
  induction l with
  | nil => exact .pure []
  | cons a l ih =>
    rw [List.mapM_cons]
    exact (h a).bind fun b => ih.bind fun bs => .pure (b :: bs)

end Recited

/-! ## Participants -/

section Participants

variable {p : Participants} {r : Role}

theorem one_recited : Recited (liftM (p.one r)) := by
  unfold Participants.one
  cases p.node.objectIn r with
  | none => exact .missing _ _
  | some o => exact .pure o

theorem value_recited : Recited (liftM (p.value r)) := by
  unfold Participants.value
  cases p.node.get? r with
  | none => exact .missing _ _
  | some v => exact .pure v

theorem any_recited : Recited (p.any r) := by
  unfold Participants.any
  refine (Recited.drawn (Roll.choose_blind _)).bind fun o => ?_
  cases o with
  | none => exact .missing _ _
  | some o => exact .pure o

theorem extractFor_recited (os : List Object) (fits : Object → Bool) :
    Recited (extractFor p os fits) := by
  unfold extractFor
  refine (Recited.drawn (Roll.extract_blind _ _)).bind fun taken => ?_
  obtain ⟨o, os⟩ := taken
  cases o with
  | none => exact .missing _ _
  | some o => exact .pure _

end Participants

/-! ## Entrances and moments -/

theorem rollPose_blind : Blind rollPose := by
  refine (Roll.chance_blind 85).bind fun _ => .ite (.pure _) ?_
  exact (Roll.chance_blind 50).bind fun _ => .ite (.pure _) (.pure _)

theorem certainOr_blind (sure : Bool) {roll : Roll Bool} (h : Blind roll) : Blind (certainOr sure roll) :=
  .ite (.pure true) h

theorem introduce_blind (seen cast : List Object) : Blind (introduce seen cast) := by
  induction cast generalizing seen with
  | nil => exact .pure []
  | cons s rest ih =>
    rw [introduce]
    dsimp only
    refine (certainOr_blind _ (Roll.chance_blind 66)).bind fun posed => ?_
    refine .bindIf rollPose_blind.map fun pose => .bindUnless (Roll.chance_blind 66) fun greets => ?_
    exact .bindIf (Roll.choose_blind seen) fun greeted => (ih _).bind fun more => .pure _

theorem rollRounds_blind (limit : Nat) : Blind (rollRounds limit) := by
  induction limit with
  | zero => exact .pure 1
  | succ limit ih =>
    exact (Roll.chance_blind 33).bind fun _ => .ite (.pure 1) (ih.bind fun more => .pure _)

/-! ## Developments -/

section Developments

variable {n : PlotNode}

theorem locateAbductee_recited : Recited (beatsOf ⟨n, .locateAbductee⟩) := by
  unfold beatsOf
  refine one_recited.bind fun abductee => one_recited.bind fun location => ?_
  refine (Recited.drawn (Roll.extract_blind _ _)).bind fun taken => ?_
  dsimp only
  split
  · refine (Recited.pure _).bind fun b => (Recited.drawn (Roll.extract_blind _ _)).bind fun a => ?_
    exact one_recited.bind fun setting => .pure _
  · refine (extractFor_recited _ _).bind fun b => (Recited.drawn (Roll.extract_blind _ _)).bind fun a => ?_
    exact one_recited.bind fun setting => .pure _

theorem recoverItem_recited : Recited (beatsOf ⟨n, .recoverItem⟩) := by
  unfold beatsOf
  refine one_recited.bind fun s => one_recited.bind fun item => one_recited.bind fun setting => ?_
  refine Recited.bind (.drawn ?_) fun scenery =>
    (Recited.drawn (Roll.choose_blind _)).bind fun relieved => .pure _
  split
  · exact pickScenery_blind _
  · exact .pure none

theorem protagonistAttack_recited : Recited (beatsOf ⟨n, .protagonistAttack⟩) := by
  unfold beatsOf
  refine one_recited.bind fun goons => (Recited.drawn (Roll.choose_blind _)).bind fun fighter => ?_
  split
  · exact .pure _
  · exact any_recited.bind fun s => .pure _

theorem encounterNewSetting_recited : Recited (beatsOf ⟨n, .encounterNewSetting⟩) := by
  unfold beatsOf
  refine (Recited.drawn (Roll.extract_blind _ _)).bind fun snarker => ?_
  refine (Recited.drawn (Roll.extract_blind _ _)).bind fun reader => ?_
  dsimp only
  split <;> exact .pure _

/-- Any development is told without a look at the bags, unless a role is missing. -/
theorem beatsOf_recited (d : Development) : Recited (beatsOf ⟨n, d⟩) := by
  cases d with
  | introduction => exact (Recited.drawn (introduce_blind _ _)).bind fun entrances => .pure _
  | itemForeshadowed | itemRecalled =>
    exact one_recited.bind fun holder => one_recited.bind fun item => any_recited.bind fun asker => .pure _
  | convalescence =>
    exact (Recited.drawn (Roll.extract_blind _ _)).bind fun lead =>
      (Recited.drawn (Roll.extract_blind _ _)).bind fun optimist => .pure _
  | allLaugh => exact .pure _
  | kidnapping =>
    exact one_recited.bind fun perp => one_recited.bind fun abductee => any_recited.bind fun noticer => .pure _
  | locateAbductee => exact locateAbductee_recited
  | wayBlocked =>
    exact (extractFor_recited _ _).bind fun a =>
      (Recited.drawn (Roll.extract_blind _ _)).bind fun b => .pure _
  | rescue =>
    exact value_recited.bind fun rescuers => one_recited.bind fun abductee =>
      any_recited.bind fun leader => .pure _
  | loseItem =>
    refine one_recited.bind fun s => one_recited.bind fun item =>
      Recited.bind (.mapM (fun b => ?_) _) fun reactions => .pure _
    exact .drawn ((Roll.chance_blind 50).bind fun looks => .pure _)
  | recoverItem => exact recoverItem_recited
  | trappedInRubble =>
    refine one_recited.bind fun s => one_recited.bind fun setting => ?_
    dsimp only
    split
    · exact (Recited.pure _).bind fun roof => any_recited.bind fun listener => .pure _
    · exact (Recited.missing _ _).bind fun roof => any_recited.bind fun listener => .pure _
  | extractedFromRubble => exact one_recited.bind fun trapped => .pure _
  | goonAmbush => exact value_recited.bind fun party => one_recited.bind fun goons => .pure _
  | goonEncounter =>
    exact value_recited.bind fun party => one_recited.bind fun goons => any_recited.bind fun speaker => .pure _
  | protagonistAttack => exact protagonistAttack_recited
  | awkwardCombat =>
    refine one_recited.bind fun goons => (extractFor_recited _ _).bind fun lead => ?_
    exact (extractFor_recited _ _).bind fun dreamboat => .pure _
  | vanquished =>
    refine one_recited.bind fun goons => one_recited.bind fun villain => any_recited.bind fun speaker => ?_
    exact (extractFor_recited _ _).bind fun a =>
      (Recited.drawn (Roll.extract_blind _ _)).bind fun b => .pure _
  | awkwardTension | romanticResolution => exact one_recited.bind fun a => one_recited.bind fun b => .pure _
  | romanticTension =>
    exact one_recited.bind fun a => one_recited.bind fun b =>
      (Recited.drawn (rollRounds_blind _)).bind fun rounds => .pure _
  | drone => exact one_recited.bind fun s => .pure _
  | contemplateItem => exact one_recited.bind fun s => one_recited.bind fun item => .pure _
  | journey => exact value_recited.bind fun party => one_recited.bind fun goal => .pure _
  | encounterNewSetting => exact encounterNewSetting_recited

end Developments

/-! ## Stories -/

theorem sceneOf_recited (n : PlotNode) : Recited (sceneOf n) := by
  have hevents : Recited (createEvents n) := by
    unfold createEvents
    split
    · exact beatsOf_recited _
    · exact .pure []
  unfold sceneOf
  split
  · exact hevents.bind fun events => .pure _
  · exact .missing _ _

theorem ofPlot_recited (plot : PlotNode) : Recited (Story.ofPlot plot) :=
  (Recited.mapM sceneOf_recited _).bind fun _ => .pure _

/-- A plot is turned into a story without a look at the bags. -/
theorem ofPlot_blind (plot : PlotNode) : Blind (Story.ofPlot plot) :=
  (ofPlot_recited plot).blind

/-- Nothing but a missing role keeps a plot from becoming a story. -/
theorem ofPlot_misses (plot : PlotNode) :
    Ends (fun _ => True) (fun e => ∃ d r, e = .missingRole d r) (fun _ => True) (Story.ofPlot plot) :=
  (ofPlot_recited plot).ends

end SpaceOpera
