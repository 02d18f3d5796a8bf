import SpaceOpera.Proofs.Chance.Outcomes
import SpaceOpera.Tree.Annotate

/-!
# What an annotation does

An annotation runs in whatever monad its caller carries things along in.  A `Judgement` is a way to speak
of the results of computations in a monad that `pure` and `>>=` respect, so that each statement about
annotations is proved once: for plain values, for draws, and for tables carried along beside the draws.
-/

namespace SpaceOpera

/-! ## Judgements -/

/-- A way to say of a computation that its result satisfies something. -/
structure Judgement (m : Type → Type) [Monad m] where
  Holds : {α : Type} → (α → Prop) → m α → Prop
  pure : ∀ {α : Type} {P : α → Prop} {a : α}, P a → Holds P (Pure.pure a)
  bind : ∀ {α β : Type} {P : α → Prop} {Q : β → Prop} {x : m α} {f : α → m β},
    Holds P x → (∀ a, P a → Holds Q (f a)) → Holds Q (x >>= f)

namespace Judgement

/-- Of a plain value. -/
def plain : Judgement Id where
  Holds P x := P x.run
  pure h := h
  bind h hf := hf _ h

/-- Of a computation in a state that has `I` throughout. -/
def yields {σ : Type} (I : σ → Prop) : Judgement (StateM σ) where
  Holds P r := Yields I P r
  pure h := Yields.pure h
  bind h hf := Yields.bind h hf

/-- Of a computation that carries something along, whatever it carries. -/
def carrying {m : Type → Type} [Monad m] (J : Judgement m) (τ : Type) : Judgement (StateT τ m) where
  Holds P x := ∀ t, J.Holds (fun p => P p.1) (x.run t)
  pure h _ := J.pure h
  bind h hf t := by
    refine J.bind (h t) ?_
    rintro ⟨a, t'⟩ ha
    exact hf a ha t'

/-- Of a computation that draws and carries something along. -/
abbrev drawing (I : Context → Prop) (τ : Type) : Judgement (StateT τ Roll) :=
  (yields I).carrying τ

variable {m : Type → Type} [Monad m] (J : Judgement m) {α β : Type}

theorem imp [LawfulMonad m] {P Q : α → Prop} {x : m α} (h : J.Holds P x)
    (hPQ : ∀ a, P a → Q a) : J.Holds Q x := by
  rw [← bind_pure x]
  exact J.bind h fun a ha => J.pure (hPQ a ha)

theorem mapM [LawfulMonad m] {S : α → β → Prop} {f : α → m β} (l : List α)
    (h : ∀ a ∈ l, J.Holds (S a) (f a)) : J.Holds (List.Forall₂ S l) (l.mapM f) := by
  induction l with
  | nil => exact J.pure .nil
  | cons a l ih =>
    rw [List.mapM_cons]
    refine J.bind (h a List.mem_cons_self) fun b hb => ?_
    refine J.bind (ih fun a' ha' => h a' (List.mem_cons_of_mem a ha')) fun bs hbs => ?_
    exact J.pure (.cons hb hbs)

variable {τ : Type}

theorem carrying_get : (J.carrying τ).Holds (fun _ => True) (get : StateT τ m τ) :=
  fun _ => J.pure trivial

theorem carrying_set (t : τ) : (J.carrying τ).Holds (fun _ => True) (set t : StateT τ m PUnit) :=
  fun _ => J.pure trivial

theorem carrying_lift {P : α → Prop} {x : m α} (h : J.Holds P x) :
    (J.carrying τ).Holds P (StateT.lift x) :=
  fun _ => J.bind h fun _ ha => J.pure ha

end Judgement

/-! ## Values -/

namespace Attributes

/-- The same roles are set, each to a value that `V` relates to the one before. -/
def Changed (V : Role → Value → Value → Prop) (a a' : Attributes) : Prop :=
  ∀ r, Option.Rel (V r) (a.get? r) (a'.get? r)

variable {V : Role → Value → Value → Prop} {a a' : Attributes}

theorem Changed.imp {W : Role → Value → Value → Prop} (h : a.Changed V a')
    (hVW : ∀ r v v', V r v v' → W r v v') : a.Changed W a' := by
  intro r
  have hr := h r
  generalize a.get? r = o at hr
  generalize a'.get? r = o' at hr
  cases hr with
  | none => exact .none
  | some hv => exact .some (hVW _ _ _ hv)

/-- Entry by entry the same roles, each with a value that `V` relates to the one before. -/
def Matched (V : Role → Value → Value → Prop) (a a' : Attributes) : Prop :=
  List.Forall₂ (fun e e' => e'.1 = e.1 ∧ V e.1 e.2 e'.2) a.entries a'.entries

theorem Matched.changed (h : a.Matched V a') : a.Changed V a' := by
  obtain ⟨es⟩ := a
  obtain ⟨es'⟩ := a'
  change List.Forall₂ _ es es' at h
  intro r
  unfold get?
  induction h with
  | nil => exact .none
  | @cons e e' _ _ he _ ih =>
    obtain ⟨k, v⟩ := e
    obtain ⟨k', v'⟩ := e'
    obtain ⟨rfl, hv⟩ := he
    by_cases hk : r = k'
    · subst hk
      simpa using Option.Rel.some hv
    · simpa only [List.lookup_cons, beq_false_of_ne hk] using ih

theorem Matched.imp {W : Role → Value → Value → Prop} (h : a.Matched V a')
    (hVW : ∀ r v v', V r v v' → W r v v') : a.Matched W a' :=
  List.Forall₂.imp (fun _ _ he => ⟨he.1, hVW _ _ _ he.2⟩) h

theorem Matched.refl (h : ∀ r v, V r v v) (a : Attributes) : a.Matched V a :=
  List.forall₂_same.2 fun e _ => ⟨rfl, h e.1 e.2⟩

theorem matched_map {f : Role → Value → Value} (h : ∀ r v, V r v (f r v)) (a : Attributes) :
    a.Matched V (a.map f) :=
  List.forall₂_map_right_iff.2 (List.forall₂_same.2 fun e _ => ⟨rfl, h e.1 e.2⟩)

theorem mapM_matched {m : Type → Type} [Monad m] [LawfulMonad m] (J : Judgement m)
    {f : Role → Value → m Value} {a : Attributes}
    (h : ∀ e ∈ a.entries, J.Holds (V e.1 e.2) (f e.1 e.2)) : J.Holds (a.Matched V) (a.mapM f) := by
  have hentries := J.mapM (S := fun e e' => e'.1 = e.1 ∧ V e.1 e.2 e'.2) a.entries fun e he =>
    J.bind (h e he) fun v hv => J.pure (a := (e.1, v)) ⟨rfl, hv⟩
  exact J.bind hentries fun es hes => J.pure hes

end Attributes

/-! ## Trees -/

namespace Node

variable {κ ρ : Type} {m : Type → Type} [Monad m] (J : Judgement m)
  {enter : κ → Attributes → ρ → ρ} {f : ρ → κ → Attributes → m Attributes} {r : ρ}

theorem annotateList_holds {S : Node κ → Node κ → Prop} {cs : List (Node κ)}
    (h : ∀ c ∈ cs, J.Holds (S c) (annotate enter f r c)) :
    J.Holds (List.Forall₂ S cs) (annotateList enter f r cs) := by
  induction cs with
  | nil =>
    rw [annotateList]
    exact J.pure .nil
  | cons c cs ih =>
    rw [annotateList]
    refine J.bind (h c List.mem_cons_self) fun c' hc' => ?_
    refine J.bind (ih fun d hd => h d (List.mem_cons_of_mem c hd)) fun cs' hcs' => ?_
    exact J.pure (.cons hc' hcs')

/-- Of the result of an annotation: its kind, its values and its children, one by one. -/
theorem annotate_holds {A : Attributes → Prop} {S : Node κ → Node κ → Prop} {n : Node κ} {t : ρ}
    (hr : enter n.kind n.attributes r = t) (hf : J.Holds A (f t n.kind n.attributes))
    (hcs : ∀ c ∈ n.children, J.Holds (S c) (annotate enter f t c)) :
    J.Holds (fun n' => n'.kind = n.kind ∧ A n'.attributes ∧
      List.Forall₂ S n.children n'.children) (annotate enter f r n) := by
  obtain ⟨k, a, cs⟩ := n
  subst hr
  rw [annotate]
  refine J.bind hf fun a' ha' => ?_
  refine J.bind (annotateList_holds J hcs) fun cs' hcs' => ?_
  exact J.pure ⟨rfl, ha', hcs'⟩

/-- What holds of the kind and the values of the node and of every node below it. -/
def Everywhere (P : κ → Attributes → Prop) (n : Node κ) : Prop :=
  ∀ m ∈ n.preorder, P m.kind m.attributes

theorem mem_preorder_self (n : Node κ) : n ∈ n.preorder := by
  obtain ⟨k, a, cs⟩ := n
  rw [preorder_mk]
  exact List.mem_cons_self

/-- A node of a tree is the root, or in the tree below one of its children. -/
theorem mem_preorder_iff {n c : Node κ} :
    c ∈ n.preorder ↔ c = n ∨ ∃ d ∈ n.children, c ∈ d.preorder := by
  obtain ⟨k, a, cs⟩ := n
  rw [preorder_mk, preorderList_eq_flatMap, List.mem_cons, List.mem_flatMap]

theorem everywhere_mk {P : κ → Attributes → Prop} {k : κ} {a : Attributes} {cs : List (Node κ)} :
    Everywhere P ⟨k, a, cs⟩ ↔ P k a ∧ ∀ c ∈ cs, c.Everywhere P := by
  unfold Everywhere
  rw [preorder_mk, List.forall_mem_cons, preorderList_eq_flatMap]
  refine and_congr_right fun _ => ?_
  simp only [List.mem_flatMap, forall_exists_index, and_imp]
  exact ⟨fun h c hc m hm => h m c hc hm, fun h m c hc hm => h c hc m hm⟩

theorem Everywhere.of_mem {P : κ → Attributes → Prop} {n c : Node κ} (h : n.Everywhere P)
    (hc : c ∈ n.children) : c.Everywhere P := by
  obtain ⟨k, a, cs⟩ := n
  exact (everywhere_mk.1 h).2 c hc

/-- The same kinds in the same shape. -/
inductive Shaped : Node κ → Node κ → Prop
  | mk {k : κ} {a a' : Attributes} {cs cs' : List (Node κ)} (h : List.Forall₂ Shaped cs cs') :
      Shaped ⟨k, a, cs⟩ ⟨k, a', cs'⟩

section Shape

theorem Shaped.children {n n' : Node κ} (h : Shaped n n') :
    List.Forall₂ Shaped n.children n'.children := by
  cases h with
  | mk h => exact h

mutual

/-- An annotation leaves kinds and shape alone. -/
theorem annotate_shaped (hf : ∀ r k a, J.Holds (fun _ => True) (f r k a)) (r : ρ) :
    ∀ n : Node κ, J.Holds (Shaped n) (annotate enter f r n)
  | ⟨k, a, cs⟩ => by
    rw [annotate]
    refine J.bind (hf (enter k a r) k a) fun a' _ => ?_
    exact J.bind (annotateList_shaped hf (enter k a r) cs) fun cs' hcs' => J.pure (.mk hcs')

theorem annotateList_shaped (hf : ∀ r k a, J.Holds (fun _ => True) (f r k a)) (r : ρ) :
    ∀ cs : List (Node κ), J.Holds (List.Forall₂ Shaped cs) (annotateList enter f r cs)
  | [] => by
    rw [annotateList]
    exact J.pure .nil
  | c :: cs => by
    rw [annotateList]
    refine J.bind (annotate_shaped hf r c) fun c' hc' => ?_
    exact J.bind (annotateList_shaped hf r cs) fun cs' hcs' => J.pure (.cons hc' hcs')

end

end Shape

section Carrying

variable {σ : Type} {enter : κ → Attributes → ρ → ρ} {f : ρ → κ → Attributes → StateM σ Attributes}
  {step : σ → Node κ → σ}

theorem run_bind {α β : Type} (x : StateM σ α) (g : α → StateM σ β) (s : σ) :
    (x >>= g).run s = (g (x.run s).1).run (x.run s).2 := rfl

mutual

/-- What an annotation carries along comes by the nodes in preorder. -/
theorem annotate_carried (hf : ∀ r k a cs s, ((f r k a).run s).2 = step s ⟨k, a, cs⟩) (r : ρ) (s : σ) :
    ∀ n : Node κ, ((annotate enter f r n).run s).2 = n.preorder.foldl step s
  | ⟨k, a, cs⟩ => by
    rw [annotate, preorder_mk, List.foldl_cons, ← hf (enter k a r), run_bind, run_bind,
      ← annotateList_carried hf]
    rfl

theorem annotateList_carried (hf : ∀ r k a cs s, ((f r k a).run s).2 = step s ⟨k, a, cs⟩) (r : ρ)
    (s : σ) :
    ∀ cs : List (Node κ), ((annotateList enter f r cs).run s).2 = (preorderList cs).foldl step s
  | [] => by
    rw [annotateList, preorderList]
    rfl
  | c :: cs => by
    rw [annotateList, preorderList, List.foldl_append, ← annotate_carried hf,
      ← annotateList_carried hf]
    rfl

end

end Carrying

end Node

end SpaceOpera
