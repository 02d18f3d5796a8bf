import SpaceOpera.Proofs.Retelling
import SpaceOpera.Proofs.Tree.Annotation

/-!
# Trees that conform

`Conforms E x n` hands something down a tree: `E x k a y` says that a node of kind `k` with values `a` fits
`x`, which it stands under, and hands `y` down to its children.  With nothing handed down, all nodes satisfy
one condition (`everywhere_iff_conforms`).  An annotation that keeps the condition at every node keeps it of
the tree (`annotate_conforms`); and one that carries something along from node to node makes each node right
for what came before it (`annotate_along`).
-/

namespace SpaceOpera.Node

variable {κ ρ X : Type}

/-! ## Conforming -/

/-- The node and all below it fit what is handed down to them. -/
inductive Conforms (E : X → κ → Attributes → X → Prop) : X → Node κ → Prop
  | mk {x y : X} {k : κ} {a : Attributes} {cs : List (Node κ)} (ha : E x k a y)
      (hcs : ∀ c ∈ cs, Conforms E y c) : Conforms E x ⟨k, a, cs⟩

section Conforming

variable {E E' : X → κ → Attributes → X → Prop} {P : κ → Attributes → Prop} {x y : X} {k : κ}
  {a : Attributes} {n : Node κ} {cs : List (Node κ)}

theorem conforms_mk : Conforms E x ⟨k, a, cs⟩ ↔ ∃ y, E x k a y ∧ ∀ c ∈ cs, c.Conforms E y := by
  constructor
  · rintro ⟨ha, hcs⟩
    exact ⟨_, ha, hcs⟩
  · rintro ⟨y, ha, hcs⟩
    exact .mk ha hcs

/-- A tree that fits one thing fits another that stands for it, if this goes for all that is handed down. -/
theorem Conforms.translate {X' : Type} {E' : X' → κ → Attributes → X' → Prop} {T : X → X' → Prop}
    {x' : X'} (h : n.Conforms E x) (hx : T x x')
    (hE : ∀ x x' k a y, T x x' → E x k a y → ∃ y', T y y' ∧ E' x' k a y') : n.Conforms E' x' := by
  induction h generalizing x' with
  | mk ha _ ih =>
    obtain ⟨y', hy, ha'⟩ := hE _ _ _ _ _ hx ha
    exact .mk ha' fun c hc => ih c hc hy

mutual

theorem Everywhere.conforms {E : X → κ → Attributes → X → Prop} (hP : ∀ k a, P k a → E x k a x) :
    ∀ n : Node κ, n.Everywhere P → n.Conforms E x
  | ⟨k, a, cs⟩, h => by
    obtain ⟨ha, hcs⟩ := everywhere_mk.1 h
    exact .mk (hP k a ha) (Everywhere.conformsList hP cs hcs)

theorem Everywhere.conformsList {E : X → κ → Attributes → X → Prop} (hP : ∀ k a, P k a → E x k a x) :
    ∀ cs : List (Node κ), (∀ c ∈ cs, c.Everywhere P) → ∀ c ∈ cs, c.Conforms E x
  | [], _ => nofun
  | c :: cs, h => by
    obtain ⟨hc, hcs⟩ := List.forall_mem_cons.1 h
    exact List.forall_mem_cons.2 ⟨Everywhere.conforms hP c hc, Everywhere.conformsList hP cs hcs⟩

end

/-- Where one thing is handed down to all, what fits it holds everywhere. -/
theorem Conforms.everywhere (h : n.Conforms E x) (hE : ∀ k a y, E x k a y → P k a ∧ y = x) :
    n.Everywhere P := by
  induction h with
  | @mk x y k a cs ha _ ih =>
    obtain ⟨hP, rfl⟩ := hE k a y ha
    exact everywhere_mk.2 ⟨hP, fun c hc => ih c hc hE⟩

theorem Conforms.and_everywhere (h : n.Conforms E x) (hP : n.Everywhere P) :
    n.Conforms (fun x k a y => E x k a y ∧ P k a) x := by
  induction h with
  | mk ha _ ih =>
    obtain ⟨hroot, hbelow⟩ := everywhere_mk.1 hP
    exact .mk ⟨ha, hroot⟩ fun c hc => ih c hc (hbelow c hc)

/-- A condition on single nodes, as one with nothing handed down. -/
abbrev Alone (P : κ → Attributes → Prop) (_ : Unit) (k : κ) (a : Attributes) (_ : Unit) : Prop :=
  P k a

theorem everywhere_iff_conforms : n.Everywhere P ↔ n.Conforms (Alone P) () :=
  ⟨Everywhere.conforms (E := Alone P) (fun _ _ h => h) n, fun h => h.everywhere fun _ _ _ ha => ⟨ha, rfl⟩⟩

/-- What is below a node of a tree is in the tree. -/
theorem preorder_subset {c : Node κ} (hc : c ∈ n.preorder) : c.preorder ⊆ n.preorder := by
  obtain ⟨x, htree⟩ : ∃ x, n.Conforms (Alone fun _ _ => True) x :=
    ⟨(), everywhere_iff_conforms.1 fun _ _ => trivial⟩
  induction htree with
  | @mk _ _ k a cs _ _ ih =>
    rw [preorder_mk, preorderList_eq_flatMap] at hc ⊢
    rcases List.mem_cons.1 hc with rfl | hc
    · rw [preorder_mk, preorderList_eq_flatMap]
      exact List.Subset.refl _
    · obtain ⟨d, hd, hc⟩ := List.mem_flatMap.1 hc
      exact fun m hm => List.mem_cons_of_mem _ (List.mem_flatMap.2 ⟨d, hd, ih d hd hc hm⟩)

end Conforming

/-! ## Annotations of conforming trees -/

section Annotating

variable {m : Type → Type} [Monad m] (J : Judgement m) {E G : X → κ → Attributes → X → Prop}
  {R : X → ρ → Prop} {enter : κ → Attributes → ρ → ρ} {f : ρ → κ → Attributes → m Attributes}

mutual

/-- What an annotation makes of a tree that fits, where `R` relates what fits to what it hands down. -/
theorem annotate_conforms (henter : ∀ x k a y r, E x k a y → R x r → R y (enter k a r))
    (hf : ∀ x k a y r, E x k a y → R y r → J.Holds (fun a' => G x k a' y) (f r k a)) {x : X} {r : ρ}
    (hr : R x r) : ∀ n : Node κ, n.Conforms E x → J.Holds (Conforms G x) (annotate enter f r n)
  | ⟨k, a, cs⟩, h => by
    obtain ⟨y, ha, hcs⟩ := conforms_mk.1 h
    have hr' := henter x k a y r ha hr
    rw [annotate]
    refine J.bind (hf x k a y _ ha hr') fun a' ha' => ?_
    refine J.bind (annotateList_conforms henter hf hr' cs hcs) fun cs' hcs' => ?_
    exact J.pure (.mk ha' hcs')

theorem annotateList_conforms (henter : ∀ x k a y r, E x k a y → R x r → R y (enter k a r))
    (hf : ∀ x k a y r, E x k a y → R y r → J.Holds (fun a' => G x k a' y) (f r k a)) {x : X} {r : ρ}
    (hr : R x r) : ∀ cs : List (Node κ), (∀ c ∈ cs, c.Conforms E x) →
      J.Holds (fun cs' => ∀ c ∈ cs', Conforms G x c) (annotateList enter f r cs)
  | [], _ => by
    rw [annotateList]
    exact J.pure nofun
  | c :: cs, h => by
    obtain ⟨hc, hcs⟩ := List.forall_mem_cons.1 h
    rw [annotateList]
    refine J.bind (annotate_conforms henter hf hr c hc) fun c' hc' => ?_
    refine J.bind (annotateList_conforms henter hf hr cs hcs) fun cs' hcs' => ?_
    exact J.pure (List.forall_mem_cons.2 ⟨hc', hcs'⟩)

end

/-- What an annotation makes of values that are handed down something with `R`. -/
theorem annotate_everywhere {P P' : κ → Attributes → Prop} {R : ρ → Prop}
    (henter : ∀ k a r, P k a → R r → R (enter k a r))
    (hf : ∀ k a r, P k a → R r → J.Holds (P' k) (f r k a)) {r : ρ} (hr : R r) {n : Node κ}
    (h : n.Everywhere P) : J.Holds (Everywhere P') (annotate enter f r n) := by
  have hsame : Everywhere P' = Conforms (Alone P') () := funext fun _ => propext everywhere_iff_conforms
  rw [hsame]
  exact annotate_conforms J (E := Alone P) (R := fun _ => R) (fun _ k a _ r => henter k a r)
    (fun _ k a _ r => hf k a r) hr n (everywhere_iff_conforms.1 h)

/-- What an annotation with nothing handed down makes of a tree that fits. -/
theorem annotateAll_conforms {f : κ → Attributes → m Attributes} {x : X} {n : Node κ}
    (hf : ∀ x k a y, E x k a y → J.Holds (fun a' => G x k a' y) (f k a)) (h : n.Conforms E x) :
    J.Holds (Conforms G x) (n.annotateAll f) :=
  annotate_conforms (R := fun _ _ => True) J (fun _ _ _ _ _ _ _ => trivial)
    (fun x k a y _ ha _ => hf x k a y ha) trivial n h

end Annotating

/-! ## Annotations along the nodes -/

section Along

variable {σ : Type} {enter : κ → Attributes → ρ → ρ} {f : ρ → κ → Attributes → StateM σ Attributes}
  {p : κ → Bool} {V : κ → Attributes → Prop} {I : List (Node κ) → σ → Prop}
  {P : List (Node κ) → Node κ → Prop}

/-- The nodes of the kinds that `p` picks, in preorder. -/
abbrev picked (p : κ → Bool) (n : Node κ) : List (Node κ) :=
  n.preorder.filter (p ·.kind)

theorem picked_mk (p : κ → Bool) (k : κ) (a : Attributes) (cs : List (Node κ)) :
    picked p ⟨k, a, cs⟩ = (if p k then [⟨k, a, cs⟩] else []) ++ cs.flatMap (picked p) := by
  rw [picked, preorder_mk, List.filter_cons, preorderList_eq_flatMap, List.filter_flatMap]
  split
  · rfl
  · rfl

/-- The values that a computation makes of a node are right for the nodes before it, and it is ready for the
nodes behind it. -/
def StepsAlong (p : κ → Bool) (I : List (Node κ) → σ → Prop) (P : List (Node κ) → Node κ → Prop)
    (k : κ) (x : StateM σ Attributes) : Prop :=
  ∀ before s, I before s → if p k = true
    then ∀ cs, P before ⟨k, (x.run s).1, cs⟩ ∧ I (before ++ [⟨k, (x.run s).1, cs⟩]) (x.run s).2
    else I before (x.run s).2

mutual

/-- What an annotation carries along is right for the picked nodes so far, and so is each of them for those
before it. -/
theorem annotate_along (hf : ∀ r k a, V k a → StepsAlong p I P k (f r k a)) (r : ρ)
    (before : List (Node κ)) (s : σ) (hs : I before s) : ∀ n : Node κ, n.Everywhere V →
      Following P before (picked p ((annotate enter f r n).run s).1) ∧
        I (before ++ picked p ((annotate enter f r n).run s).1) ((annotate enter f r n).run s).2
  | ⟨k, a, cs⟩, h => by
    obtain ⟨ha, hcs⟩ := everywhere_mk.1 h
    have hstep := hf (enter k a r) k a ha before s hs
    rw [annotate, run_bind, run_bind]
    generalize (f (enter k a r) k a).run s = result at hstep
    obtain ⟨a', s'⟩ := result
    have hrest := fun before' hs' => annotateList_along hf (enter k a r) before' s' hs' cs hcs
    generalize (annotateList enter f (enter k a r) cs).run s' = result at hrest
    obtain ⟨cs', s''⟩ := result
    change Following P before (picked p ⟨k, a', cs'⟩) ∧ I (before ++ picked p ⟨k, a', cs'⟩) s''
    rw [picked_mk]
    by_cases hp : p k = true
    · rw [if_pos hp] at hstep
      obtain ⟨hnode, hs'⟩ := hstep cs'
      obtain ⟨halong, hs''⟩ := hrest _ hs'
      rw [if_pos hp, ← List.append_assoc]
      exact ⟨⟨hnode, halong⟩, hs''⟩
    · rw [if_neg hp] at hstep
      rw [if_neg hp]
      exact hrest _ hstep

theorem annotateList_along (hf : ∀ r k a, V k a → StepsAlong p I P k (f r k a)) (r : ρ)
    (before : List (Node κ)) (s : σ) (hs : I before s) :
    ∀ cs : List (Node κ), (∀ c ∈ cs, c.Everywhere V) →
      Following P before (((annotateList enter f r cs).run s).1.flatMap (picked p)) ∧
        I (before ++ ((annotateList enter f r cs).run s).1.flatMap (picked p))
          ((annotateList enter f r cs).run s).2
  | [], _ => by
    rw [annotateList]
    refine ⟨trivial, ?_⟩
    change I (before ++ []) s
    rwa [List.append_nil]
  | c :: cs, h => by
    obtain ⟨hc, hcs⟩ := List.forall_mem_cons.1 h
    obtain ⟨halong, hs'⟩ := annotate_along hf r before s hs c hc
    rw [annotateList, run_bind, run_bind]
    generalize (annotate enter f r c).run s = result at halong hs'
    obtain ⟨c', s'⟩ := result
    obtain ⟨halong', hs''⟩ := annotateList_along hf r _ s' hs' cs hcs
    generalize (annotateList enter f r cs).run s' = result at halong' hs''
    obtain ⟨cs', s''⟩ := result
    change Following P before ((c' :: cs').flatMap _) ∧ I (before ++ (c' :: cs').flatMap _) s''
    rw [List.flatMap_cons, following_append, ← List.append_assoc]
    exact ⟨⟨halong, halong'⟩, hs''⟩

end

end Along

end SpaceOpera.Node
