import SpaceOpera.Plotter.Expansion
import SpaceOpera.Proofs.Chance.Blindness
import SpaceOpera.Serial.File

/-!
# Worlds and plots without varied choices

A world is read and its plots are written without a look at the bags of options
(`WorldSource.world_blind`, `acceptablePlot_blind`).  What a single plot is put together from is said once
(`Drafted`), for what else holds of everything put together so.
-/

namespace SpaceOpera

variable {α : Type}

/-! ## Worlds -/

section Worlds

theorem pickScenery_blind (p : Place Object) : Blind p.pickScenery :=
  Roll.choose_blind _

theorem Traits.roll_blind (archetype : Archetype) (gender : Gender) :
    Blind (Traits.roll archetype gender) := by
  unfold Traits.roll
  refine (Roll.word_blind _).bind fun _ => ?_
  refine (Roll.word_blind _).bind fun _ => ?_
  refine (Roll.word_blind _).bind fun _ => ?_
  refine (Roll.word_blind _).bind fun _ => ?_
  refine (Roll.word_blind _).bind fun _ => ?_
  refine (Roll.word_blind _).bind fun _ => ?_
  refine (Roll.word_blind _).bind fun _ => ?_
  exact (Roll.word_blind _).bind fun _ => .pure _

theorem CharacterSpec.build_blind (c : CharacterSpec) (keyed : Keyed) : Blind (c.build keyed) := by
  have htraits : Blind c.rollTraits := by
    unfold CharacterSpec.rollTraits
    cases c.traits with
    | none => exact Traits.roll_blind _ _
    | some traits => exact .pure traits
  unfold CharacterSpec.build
  refine .given fun _ => htraits.drawn.bind fun traits => ?_
  refine .given fun home => Blind.bind ?_ fun weapon => .pure _
  cases c.weapon with
  | none => exact .pure none
  | some t => exact .given fun weapon => .pure (some weapon)

theorem WorldSpec.build_blind (spec : WorldSpec) : Blind spec.build := by
  have hthings : ∀ (entry : Entry) (specs : List ThingSpec),
      Blind (specs.mapM fun t => (liftM (t.build entry) : Attempt WorldError Object)) :=
    fun entry specs => Blind.mapM (fun t => Blind.liftExcept) specs
  unfold WorldSpec.build
  dsimp only
  refine .ite (.throw _) (.ite (.throw _) ?_)
  refine .given fun keyed => ?_
  refine (Blind.mapM (fun c => c.build_blind keyed) _).bind fun protagonists => ?_
  refine (Blind.mapM (fun c => c.build_blind keyed) _).bind fun antagonists => ?_
  refine (hthings .goons _).bind fun goons => ?_
  exact (hthings .macguffin _).bind fun macguffins => .pure _

theorem WorldSource.world_blind (source : WorldSource) : Blind source.world := by
  unfold WorldSource.world
  split
  · exact .pure _
  · rename_i text
    unfold World.read
    split
    · exact .throw _
    · rename_i spec _
      exact .adapt spec.build_blind
  · exact .throw _

end Worlds

/-! ## Assignments -/

namespace Pool

variable {p : Pool}

theorem everyone_blind : Blind p.everyone :=
  .ite .failure (.pure _)

theorem protagonistAndOthers_blind (fits : Object → Bool) : Blind (p.protagonistAndOthers fits) := by
  unfold protagonistAndOthers
  refine (Blind.optional (Roll.choose_blind _)).bind fun chosen => ?_
  exact .ite .failure (.pure _)

theorem leadAndDreamboat_blind : Blind p.leadAndDreamboat := by
  unfold leadAndDreamboat
  dsimp only
  refine .ite .failure ?_
  refine (Blind.optional (Roll.choose_blind _)).bind fun lead => ?_
  exact (Blind.optional (Roll.choose_blind _)).bind fun dreamboat => .pure _

end Pool

theorem present_blind (o : Option α) : Blind (present o) :=
  .optional (.pure o)

theorem require_blind (b : Bool) : Blind (require b) :=
  .ite (.pure ()) .failure

theorem assignIn_blind (w : World) (rule : Rule) (hole : PlotNode) (setting : Object) (pool : Pool) :
    Blind (assignIn w rule hole setting pool) := by
  unfold assignIn
  cases rule with
  | kidnapping =>
    refine (pool.protagonistAndOthers_blind _).bind fun chosen => ?_
    exact (Blind.optional (Roll.choose_blind _)).bind fun villain => .pure _
  | findAbductee =>
    refine Pool.everyone_blind.bind fun protagonists => ?_
    exact (present_blind _).bind fun abductee => (present_blind _).bind fun location => .pure _
  | findAnotherWay =>
    refine (present_blind _).bind fun place => (present_blind _).bind fun outside => ?_
    exact Pool.everyone_blind.bind fun protagonists => .pure _
  | lostItem =>
    refine (Pool.protagonistAndOthers_blind _).bind fun loser => ?_
    exact (Blind.optional (Roll.choose_blind _)).bind fun item => .pure _
  | caveIn =>
    refine (require_blind _).bind fun _ => ?_
    exact (Pool.protagonistAndOthers_blind _).bind fun trapped => .pure _
  | goonSkirmish =>
    refine (require_blind _).bind fun _ => Pool.everyone_blind.bind fun protagonists => ?_
    exact (Blind.optional (Roll.choose_blind _)).bind fun goons => .pure _
  | protagonistAttack =>
    exact Pool.everyone_blind.bind fun protagonists => (present_blind _).bind fun goons => .pure _
  | awkwardCombat =>
    exact (present_blind _).bind fun goons => Pool.leadAndDreamboat_blind.bind fun pair => .pure _
  | awkwardTension | romanticTension | romanticResolution =>
    exact Pool.leadAndDreamboat_blind.bind fun pair => .pure _
  | contemplateItem =>
    refine (Pool.protagonistAndOthers_blind _).bind fun contemplator => ?_
    refine (present_blind _).bind fun place => ?_
    exact (Blind.optional (Roll.choose_blind _)).bind fun item => .pure _
  | drone =>
    refine (present_blind _).bind fun place => (require_blind _).bind fun _ => ?_
    exact (Pool.protagonistAndOthers_blind _).bind fun startled => .pure _

theorem assign_blind (w : World) (rule : Rule) (hole : PlotNode) (unavailable : Roster) :
    Blind (assign w rule hole unavailable) := by
  unfold assign
  split
  · exact .pure none
  · exact assignIn_blind w rule hole _ _

/-! ## Subplots -/

theorem rollPair_blind (lead dreamboat : Object) : Blind (rollPair lead dreamboat) :=
  (Roll.chance_blind 33).bind fun _ => .ite (.pure _) (.pure _)

theorem subplotIn_blind (w : World) (here : Object) (a : Assignment) : Blind (subplotIn w here a) := by
  cases a with
  | kidnapping => exact .given fun bystanders => .given fun everyone => .pure _
  | findAbductee | findAnotherWay | caveIn | protagonistAttack | awkwardCombat =>
    exact .given fun party => .pure _
  | lostItem =>
    refine (Roll.choose_blind _).drawn.bind fun lead => ?_
    exact .given fun losing => .given fun recovering => .pure _
  | goonSkirmish =>
    refine (Roll.chance_blind 50).drawn.bind fun met => (Roll.choose_blind _).drawn.bind fun sender => ?_
    cases sender with
    | none => exact .throw _
    | some sender => exact .given fun party => .pure _
  | awkwardTension | romanticTension => exact (rollPair_blind _ _).drawn.bind fun pair => .pure _
  | romanticResolution | contemplateItem | drone => exact .pure _

theorem generate_blind (w : World) (a : Assignment) (plotHole : PlotNode) :
    Blind (generate w a plotHole) := by
  unfold generate
  split
  · exact .throw _
  · exact (subplotIn_blind w _ a).bind fun children => .pure _

/-! ## Plots -/

/-- Does the report reject a plot? -/
def Diagnostic.isRejection : Diagnostic → Bool
  | plotRejected _ _ => true
  | _ => false

theorem exchangesFrom_isRejection (held : PlotNode) (ns : List PlotNode) :
    ∀ d ∈ exchangesFrom held ns, d.isRejection = false := by
  induction ns generalizing held with
  | nil => exact List.forall_mem_nil _
  | cons n ns ih =>
    rw [exchangesFrom]
    split
    · split
      · exact List.forall_mem_cons.2 ⟨rfl, ih held⟩
      · exact ih held
    · exact ih n

theorem normalizeReports_isRejection (plot : PlotNode) :
    ∀ d ∈ normalizeReports plot, d.isRejection = false := by
  unfold normalizeReports exchanges
  split
  · split
    · exact List.forall_mem_nil _
    · exact exchangesFrom_isRejection _ _
  · exact List.forall_mem_nil _

/-- The telling draws without a look at the bags, and of what it reports nothing rejects a plot. -/
inductive Drafted : {α : Type} → Telling PlotError α → Prop
  | pure {α : Type} (a : α) : Drafted (Pure.pure a)
  | given {α : Type} (x : Except PlotError α) : Drafted (liftM x)
  | rolled {α : Type} {roll : Roll α} (h : Blind roll) : Drafted (liftM roll)
  | narrated {α : Type} {attempt : Attempt PlotError α} (h : Blind attempt) : Drafted (liftM attempt)
  | reported {ds : List Diagnostic} (h : ∀ d ∈ ds, d.isRejection = false) : Drafted (report ds)
  | bind {α β : Type} {t : Telling PlotError α} {f : α → Telling PlotError β} (h : Drafted t)
    (hf : ∀ a, Drafted (f a)) : Drafted (t >>= f)

theorem Drafted.blind {t : Telling PlotError α} (h : Drafted t) : Blind t := by
  induction h with
  | pure a => exact .pure a
  | given x => exact .liftExcept
  | rolled h => exact h.rolled
  | narrated h => exact h.narrated
  | reported => exact report_blind _
  | bind _ _ ih ihf => exact ih.bind ihf

namespace Plotter

variable (p : Plotter)

theorem applicable_blind (hole : PlotNode) (unavailable : Roster) (rules : List Rule) :
    Blind (p.applicable hole unavailable rules) := by
  induction rules with
  | nil => exact .pure []
  | cons r rules ih => exact (assign_blind _ _ _ _).bind fun a => ih.bind fun rest => .pure _

theorem fillWith_drafted (rules : List Rule) (hole : PlotNode) (unavailable : Roster) :
    Drafted (p.fillWith rules hole unavailable) := by
  unfold fillWith
  refine (Drafted.rolled (p.applicable_blind _ _ _)).bind fun choices => ?_
  split
  · exact (Drafted.reported (List.forall_mem_singleton.2 rfl)).bind fun _ => .pure hole
  · refine (Drafted.rolled (Roll.between_blind _ _)).bind fun i => ?_
    split
    · exact .narrated (generate_blind _ _ _)
    · exact .pure hole

mutual

theorem complicate_drafted (plot : PlotNode) (unavailable : Roster) :
    Drafted (p.complicate plot unavailable) := by
  rw [complicate.eq_def]
  split
  · exact (p.fillWith_drafted _ _ _).bind fun filled => .pure _
  · rename_i cs _
    refine (Drafted.given _).bind fun unavailable => ?_
    exact (complicateList_drafted cs unavailable).bind fun after => .pure _

theorem complicateList_drafted (plots : List PlotNode) (unavailable : Roster) :
    Drafted (p.complicateList plots unavailable) := by
  cases plots with
  | nil => exact .pure _
  | cons c cs =>
    rw [complicateList]
    refine (complicate_drafted c unavailable).bind fun after => ?_
    exact (complicateList_drafted cs after.2).bind fun rest => .pure _

end

theorem expandFrom_drafted (round rounds : Nat) (plot : PlotNode) :
    Drafted (p.expandFrom round rounds plot) := by
  induction rounds generalizing round plot with
  | zero => exact .pure plot
  | succ rounds ih =>
    rw [expandFrom]
    split
    · exact (Drafted.reported (List.forall_mem_singleton.2 rfl)).bind fun _ => .pure plot
    · refine (p.complicate_drafted plot {}).bind fun filled => ?_
      exact (Drafted.given _).bind fun _ => ih _ _

theorem writePlot_drafted (depth : Nat) : Drafted (p.writePlot depth) := by
  unfold writePlot expand
  refine Drafted.bind ((Drafted.given _).bind fun plot => p.expandFrom_drafted 0 depth plot) fun plot => ?_
  exact (Drafted.reported (normalizeReports_isRejection plot)).bind fun _ => .given _

theorem acceptableFrom_blind (c : Constraints) (depth tries attempts : Nat) :
    Blind (p.acceptableFrom c depth tries attempts) := by
  induction tries generalizing attempts with
  | zero => exact .throw _
  | succ tries ih =>
    rw [acceptableFrom]
    refine (p.writePlot_drafted depth).blind.bind fun plot => ?_
    split
    · exact (report_blind _).bind fun _ => .pure plot
    · exact (report_blind _).bind fun _ => ih _

/-- Plots are written without a look at the bags. -/
theorem acceptablePlot_blind (c : Constraints) (depth : Nat) (maxAttempts : Option Nat) :
    Blind (p.acceptablePlot c depth maxAttempts) :=
  p.acceptableFrom_blind c depth _ 0

end Plotter

end SpaceOpera
