import SpaceOpera.Telling
import SpaceOpera.Tree.Annotate

/-!
# Blindness to the bags

A computation is blind if the bags of options make no difference to it: begun with other bags, it comes to the
same and leaves behind the same, but for the other bags, which it has not touched.  All that varied choices
have to themselves is in the bags, so whatever draws without them is blind, and what is put together from
blind computations is blind in turn, in each of the monads that chapters are written in.
-/

namespace SpaceOpera

open Chance (Variety)

/-! ## Blind computations -/

/-- A state with bags in it, which can be exchanged, and with them whether they are in use. -/
class Bagged (σ : Type) where
  rebag : Variety → σ → σ

instance : Bagged Context := ⟨fun v c => { c with variety := v }⟩

instance : Bagged Narration := ⟨fun v n => { n with context := Bagged.rebag v n.context }⟩

/-- A way to say of computations in a monad that they are blind, which `pure` and `>>=` respect. -/
class Blindness (m : Type → Type) [Monad m] where
  Holds : {α : Type} → m α → Prop
  pure : ∀ {α : Type} (a : α), Holds (Pure.pure a)
  bind : ∀ {α β : Type} {x : m α} {f : α → m β}, Holds x → (∀ a, Holds (f a)) → Holds (x >>= f)

/-- The bags make no difference to the computation. -/
def Blind {m : Type → Type} [Monad m] [Blindness m] {α : Type} (x : m α) : Prop :=
  Blindness.Holds x

section Stacks

variable {σ τ ε α : Type} {m : Type → Type} [Monad m] [Blindness m]

instance [Bagged σ] : Blindness (StateM σ) where
  Holds x := ∀ v s, x.run (Bagged.rebag v s) = ((x.run s).1, Bagged.rebag v (x.run s).2)
  pure _ _ _ := rfl
  bind {_ _ x f} hx hf v s := by
    have hrun : ∀ s, (x >>= f).run s = (f (x.run s).1).run (x.run s).2 := fun _ => rfl
    rw [hrun, hx, hf, hrun]

instance : Blindness (ExceptT ε m) where
  Holds x := Blind x.run
  pure a := Blindness.pure (m := m) (Except.ok a)
  bind {_ _ x f} hx hf := by
    rw [ExceptT.run_bind]
    refine Blindness.bind hx fun outcome => ?_
    cases outcome with
    | ok a => exact hf a
    | error e => exact Blindness.pure _

instance : Blindness (OptionT m) where
  Holds x := Blind x.run
  pure a := Blindness.pure (m := m) (some a)
  bind {_ _ x f} hx hf := by
    rw [OptionT.run_bind, Option.elimM]
    refine Blindness.bind hx fun outcome => ?_
    cases outcome with
    | none => exact Blindness.pure _
    | some a => exact hf a

instance : Blindness (StateT τ m) where
  Holds x := ∀ t, Blind (x.run t)
  pure a t := Blindness.pure (m := m) (a, t)
  bind hx hf t := Blindness.bind (hx t) fun p => hf p.1 p.2

/-- Begun with other bags, a blind computation comes to the same, and leaves the other bags. -/
theorem Blind.run_rebag [Bagged σ] {x : StateM σ α} (h : Blind x) (v : Variety) (s : σ) :
    x.run (Bagged.rebag v s) = ((x.run s).1, Bagged.rebag v (x.run s).2) :=
  h v s

/-- What runs a blind computation on a part of its state and keeps the bags of that part is blind. -/
theorem Blind.within {β : Type} [Bagged σ] [Bagged τ] {x : StateM σ α} (part : σ → τ)
    (r : σ → StateM τ β) (f : σ → β → τ → α × σ) (hr : ∀ s, Blind (r s))
    (hx : ∀ s, x.run s = f s ((r s).run (part s)).1 ((r s).run (part s)).2)
    (hrebag : ∀ v s, part (Bagged.rebag v s) = Bagged.rebag v (part s) ∧ r (Bagged.rebag v s) = r s ∧
      ∀ b t, f (Bagged.rebag v s) b (Bagged.rebag v t) = ((f s b t).1, Bagged.rebag v (f s b t).2)) :
    Blind x := by
  intro v s
  obtain ⟨hpart, hsame, hf⟩ := hrebag v s
  rw [hx, hpart, hsame, (hr s).run_rebag, hf, hx s]

end Stacks

namespace Blind

variable {α β γ ε ε' τ : Type} {m : Type → Type} [Monad m] [Blindness m] {x : m α}

theorem pure (a : α) : Blind (Pure.pure a : m α) :=
  Blindness.pure a

theorem bind {f : α → m β} (h : Blind x) (hf : ∀ a, Blind (f a)) : Blind (x >>= f) :=
  Blindness.bind h hf

theorem map [LawfulMonad m] {f : α → β} (h : Blind x) : Blind (f <$> x) := by
  rw [← bind_pure_comp]
  exact h.bind fun a => .pure (f a)

theorem ite {c : Prop} [Decidable c] {y : m α} (h : Blind x) (h' : Blind y) :
    Blind (if c then x else y) := by
  split
  · exact h
  · exact h'

/-- Something is drawn if the condition holds, and is given otherwise. -/
theorem bindIf {c : Prop} [Decidable c] {a : α} {f : α → m β} (h : Blind x) (hf : ∀ a, Blind (f a)) :
    Blind (if c then x >>= f else Pure.pure a >>= f) :=
  .ite (h.bind hf) ((Blind.pure a).bind hf)

/-- Something is drawn unless the condition holds, and is given otherwise. -/
theorem bindUnless {c : Prop} [Decidable c] {a : α} {f : α → m β} (h : Blind x)
    (hf : ∀ a, Blind (f a)) : Blind (if c then Pure.pure a >>= f else x >>= f) :=
  .ite ((Blind.pure a).bind hf) (h.bind hf)

theorem mapM [LawfulMonad m] {f : α → m β} (h : ∀ a, Blind (f a)) (l : List α) : Blind (l.mapM f) := by
  induction l with
  | nil => exact .pure []
  | cons a l ih =>
    rw [List.mapM_cons]
    exact (h a).bind fun b => ih.bind fun bs => .pure (b :: bs)

/-! ## Failing -/

theorem throw (e : ε) : Blind (throw e : ExceptT ε m α) :=
  Blind.pure (m := m) (Except.error e)

theorem lift [LawfulMonad m] (h : Blind x) : Blind (ExceptT.lift x : ExceptT ε m α) :=
  Blind.map (m := m) h

theorem liftExcept {o : Except ε α} {σ : Type} [Bagged σ] :
    Blind (liftM o : ExceptT ε (StateM σ) α) := by
  cases o with
  | ok a => exact .pure a
  | error e => exact .throw e

/-- What is known without a draw makes no difference to what goes on from it. -/
theorem given {o : Except ε α} {σ : Type} [Bagged σ] {f : α → ExceptT ε (StateM σ) β}
    (hf : ∀ a, Blind (f a)) : Blind ((liftM o : ExceptT ε (StateM σ) α) >>= f) :=
  liftExcept.bind hf

theorem adapt [LawfulMonad m] {f : ε → ε'} {t : ExceptT ε m α} (h : Blind t) : Blind (t.adapt f) :=
  Blind.map (m := m) h

/-! ## Coming to nothing -/

theorem failure : Blind (failure : OptionT m α) :=
  Blind.pure (m := m) none

theorem optional {r : m (Option α)} (h : Blind r) : Blind (OptionT.mk r) := h

/-! ## Carrying something along -/

theorem carried (h : Blind x) : Blind (StateT.lift x : StateT τ m α) :=
  fun t => Blind.bind (m := m) h fun a => .pure (a, t)

theorem get : Blind (get : StateT τ m τ) :=
  fun t => Blind.pure (m := m) (t, t)

theorem set (t : τ) : Blind (set t : StateT τ m PUnit) :=
  fun _ => Blind.pure (m := m) (PUnit.unit, t)

end Blind

/-! ## Drawing -/

namespace Roll

variable {α : Type}

theorem below_blind (width : Chance.Width) (bound : Nat) : Blind (below width bound) :=
  fun _ _ => rfl

theorem between_blind (low high : Nat) : Blind (between low high) :=
  fun _ _ => rfl

theorem chance_blind (percent : Nat) : Blind (chance percent) :=
  (below_blind .narrow 100).bind fun _ => .pure _

theorem choose_blind (items : List α) : Blind (choose items) :=
  Blind.ite (.pure none) ((below_blind .narrow _).bind fun _ => .pure _)

theorem word_blind (table : List String) : Blind (word table) :=
  (choose_blind table).bind fun _ => .pure _

theorem extract_blind (items : List α) (fits : α → Bool) : Blind (extract items fits) := by
  refine (choose_blind _).bind fun place => ?_
  cases place with
  | none => exact .pure _
  | some i => exact .pure _

end Roll

/-! ## Drawing as a part of something longer -/

section Lifting

variable {α ε : Type}

theorem Blind.drawn {roll : Roll α} (h : Blind roll) : Blind (liftM roll : Attempt ε α) :=
  Blind.lift h

theorem Blind.narrate {roll : Roll α} (h : Blind roll) : Blind roll.narrate :=
  .within Narration.context (fun _ => roll) (fun n a context => (a, { n with context }))
    (fun _ => h) (fun _ => rfl) fun _ _ => ⟨rfl, rfl, fun _ _ => rfl⟩

theorem Blind.narrated {attempt : Attempt ε α} (h : Blind attempt) :
    Blind (liftM attempt : Telling ε α) :=
  Blind.narrate h

theorem Blind.rolled {roll : Roll α} (h : Blind roll) : Blind (liftM roll : Telling ε α) :=
  Blind.lift (Blind.narrate h)

theorem report_blind (ds : List Diagnostic) : Blind (report ds : Telling ε Unit) :=
  fun _ _ => rfl

end Lifting

/-! ## Trees -/

theorem Attributes.mapM_blind {m : Type → Type} [Monad m] [LawfulMonad m] [Blindness m]
    {f : Role → Value → m Value} (hf : ∀ r v, Blind (f r v)) (a : Attributes) : Blind (a.mapM f) := by
  refine Blind.bind (.mapM (fun e => ?_) a.entries) fun es => .pure _
  exact (hf e.1 e.2).bind fun v => .pure (e.1, v)

namespace Node

variable {κ ρ : Type} {m : Type → Type} [Monad m] [Blindness m] {enter : κ → Attributes → ρ → ρ}
  {f : ρ → κ → Attributes → m Attributes}

mutual

theorem annotate_blind (hf : ∀ r k a, Blind (f r k a)) (r : ρ) :
    ∀ n : Node κ, Blind (annotate enter f r n)
  | ⟨k, a, cs⟩ => by
    rw [annotate]
    refine (hf (enter k a r) k a).bind fun a' => ?_
    exact (annotateList_blind hf (enter k a r) cs).bind fun cs' => .pure _

theorem annotateList_blind (hf : ∀ r k a, Blind (f r k a)) (r : ρ) :
    ∀ cs : List (Node κ), Blind (annotateList enter f r cs)
  | [] => by
    rw [annotateList]
    exact .pure []
  | c :: cs => by
    rw [annotateList]
    refine (annotate_blind hf r c).bind fun c' => ?_
    exact (annotateList_blind hf r cs).bind fun cs' => .pure _

end

end Node

end SpaceOpera
