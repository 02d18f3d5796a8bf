import SpaceOpera.Proofs.Editor.Values

/-!
# Dressing a scene

Outfits are rolled when a character first turns up in a scene, and the ledger that holds them only grows
while the scene is dressed.  So what is said of a state and the outfits so far (`State.Wears`) still holds
with the outfits of the end, and a tree that is dressed fits the outfits of its scenes
(`assignCostumes_dressing`).  What only depends on the objects of the states is kept on the way (`Steady`).
-/

namespace SpaceOpera

open List (Forall₂)

variable {X X' : Type} {I : Context → Prop}

/-! ## Outfits -/

/-- Whoever has an outfit in the first ledger has the same in the second. -/
def Ledger.Within {β : Type} (l l' : Ledger β) : Prop :=
  ∀ o b, l.get? o = some b → l'.get? o = some b

/-- A character is dressed in the outfit that the ledger has for it, and nothing else changes. -/
def State.Wears (outfits : Ledger Outfit) (s s' : State) : Prop :=
  s.object.isCharacter = false ∧ s' = s ∨ ∃ outfit, outfits.get? s.object = some outfit ∧
    s' = { s with torso := some outfit.torso, legs := outfit.legs, feet := some outfit.feet }

section Outfits

variable {α β : Type} {outfits outfits' : Ledger Outfit} {s s' : State}

theorem Ledger.Within.refl (l : Ledger β) : l.Within l := fun _ _ => id

theorem Ledger.Within.trans {l l' l'' : Ledger β} (h : l.Within l') (k : l'.Within l'') :
    l.Within l'' :=
  fun o b ho => k o b (h o b ho)

theorem Ledger.within_insert {l : Ledger β} {o : Object} (h : l.get? o = none) (b : β) :
    l.Within (l.insert o b) := by
  intro p b' hp
  rw [Ledger.get?_insert]
  split
  · rename_i hpo
    rw [Ledger.get?_congr l hpo, h] at hp
    cases hp
  · exact hp

/-- From whatever outfits, they stay, and what the computation comes to is right with those of the end and
with any more. -/
def Dressing (I : Context → Prop) (Q : Ledger Outfit → α → Prop)
    (x : StateT (Ledger Outfit) Roll α) : Prop :=
  ∀ outfits, Yields I (fun p => outfits.Within p.2 ∧ ∀ more, p.2.Within more → Q more p.1)
    (x.run outfits)

variable {Q : Ledger Outfit → α → Prop} {R : Ledger Outfit → β → Prop}
  {x : StateT (Ledger Outfit) Roll α}

theorem Dressing.pure {a : α} (h : ∀ more, Q more a) : Dressing I Q (Pure.pure a) :=
  fun outfits => Yields.pure ⟨.refl outfits, fun more _ => h more⟩

theorem Dressing.bind {f : α → StateT (Ledger Outfit) Roll β} (h : Dressing I Q x)
    (hf : ∀ a, Dressing I (fun more b => Q more a → R more b) (f a)) : Dressing I R (x >>= f) := by
  intro outfits
  rw [StateT.run_bind]
  refine (h outfits).bind fun p hp => (hf p.1 p.2).imp fun q hq => ?_
  exact ⟨hp.1.trans hq.1, fun more hmore => hq.2 more hmore (hp.2 more (hq.1.trans hmore))⟩

theorem Dressing.mapM {S : Ledger Outfit → α → β → Prop} {f : α → StateT (Ledger Outfit) Roll β}
    (h : ∀ a, Dressing I (fun more => S more a) (f a)) (as : List α) :
    Dressing I (fun more => Forall₂ (S more) as) (as.mapM f) := by
  induction as with
  | nil => exact .pure fun _ => .nil
  | cons a as ih =>
    rw [List.mapM_cons]
    refine (h a).bind fun b => ih.bind fun bs => ?_
    exact .pure fun _ hbs hb => .cons hb hbs

end Outfits

/-! ## Dressing -/

section Dressing

theorem outfitOf_dressing [Lasting I] (o : Object) (c : Character) :
    Dressing I (fun more outfit => more.get? o = some outfit) (outfitOf o c) := by
  intro outfits
  unfold outfitOf
  simp only [StateT.run_bind, StateT.run_get, pure_bind]
  split
  · rename_i outfit houtfit
    exact Yields.pure ⟨.refl outfits, fun more hmore => hmore o outfit houtfit⟩
  · rename_i hnone
    change Yields I _ (Outfit.roll c >>= fun outfit => pure (outfit, outfits.insert o outfit))
    refine (Outfit.roll_yields c).bind fun outfit _ => ?_
    refine Yields.pure ⟨Ledger.within_insert hnone outfit, fun more hmore => hmore o outfit ?_⟩
    rw [Ledger.get?_insert, if_pos BEq.rfl]

theorem dress_dressing [Lasting I] (v : Value) :
    Dressing I (fun more => v.Updated (State.Wears more)) (dress v) := by
  unfold dress
  cases v with
  | state s =>
    cases hc : s.object.character? with
    | none =>
      simp only [hc]
      have hs : s.object.isCharacter = false := by rw [Object.isCharacter, hc]; rfl
      exact .pure fun _ => ⟨s, rfl, Or.inl ⟨hs, rfl⟩⟩
    | some c =>
      simp only [hc]
      refine (outfitOf_dressing s.object c).bind fun outfit => .pure fun more houtfit => ?_
      exact ⟨_, rfl, Or.inr ⟨outfit, houtfit, rfl⟩⟩
  | _ => exact .pure fun _ => rfl

theorem costumes_dressing [Lasting I] (a : Attributes) :
    Dressing I (fun more => a.Matched fun _ => Value.Updated (State.Wears more))
      (a.mapM fun _ => dress) := by
  have hentries := Dressing.mapM (I := I)
    (S := fun more e e' => e'.1 = e.1 ∧ e.2.Updated (State.Wears more) e'.2)
    (f := fun e => do let v ← dress e.2; pure (e.1, v)) (fun e =>
      (dress_dressing e.2).bind fun v => .pure fun _ hv => ⟨rfl, hv⟩) a.entries
  exact hentries.bind fun es => .pure fun _ hes => hes

/-- What fits before a node is dressed and with which outfits the dressed node fits: the children of a scene
with those of the scene, all others with those that there are around the node. -/
def Attiring (E : X → StoryKind → Attributes → X → Prop) (E' : X' → StoryKind → Attributes → X' → Prop)
    (g : X → Ledger Outfit → X') : Prop :=
  ∀ x k a a' y (around inside : Ledger Outfit), E x k a y → (k ≠ .scene → inside = around) →
    a.Matched (fun _ => Value.Updated (State.Wears inside)) a' → E' (g x around) k a' (g y inside)

variable {E : X → StoryKind → Attributes → X → Prop} {E' : X' → StoryKind → Attributes → X' → Prop}
  {g : X → Ledger Outfit → X'}

/-- A scene starts without outfits, and those around it are there again behind it. -/
theorem assignCostumes_run (k : StoryKind) (a : Attributes) (cs : List StoryNode)
    (outfits : Ledger Outfit) : (assignCostumes ⟨k, a, cs⟩).run outfits = (do
      let p ← (do
        let a ← a.mapM fun _ => dress
        let cs ← assignCostumesList cs
        return (a, cs) : StateT (Ledger Outfit) Roll _).run (if k = .scene then {} else outfits)
      return (⟨k, p.1.1, p.1.2⟩, if k = .scene then outfits else p.2)) := by
  rw [assignCostumes]
  split
  · rfl
  · rfl

mutual

theorem assignCostumes_dressing [Lasting I] (hE : Attiring E E' g) {x : X} : ∀ n : StoryNode, n.Conforms E x →
    Dressing I (fun more n' => Node.Conforms E' (g x more) n') (assignCostumes n)
  | ⟨k, a, cs⟩, h => by
    obtain ⟨y, ha, hcs⟩ := Node.conforms_mk.1 h
    have hbelow : Dressing I (fun more p => a.Matched (fun _ => Value.Updated (State.Wears more)) p.1 ∧
        ∀ c ∈ p.2, Node.Conforms E' (g y more) c) (do
          let a ← a.mapM fun _ => dress
          let cs ← assignCostumesList cs
          return (a, cs)) :=
      (costumes_dressing a).bind fun a' => (assignCostumesList_dressing hE cs hcs).bind fun cs' =>
        .pure fun _ hcs' ha' => ⟨ha', hcs'⟩
    intro outfits
    rw [assignCostumes_run]
    refine (hbelow _).bind fun p hp => Yields.pure ?_
    by_cases hk : k = .scene
    · obtain ⟨ha', hcs'⟩ := hp.2 _ (.refl _)
      rw [if_pos hk]
      exact ⟨.refl outfits, fun more _ => .mk (hE _ _ _ _ _ more _ ha (absurd hk) ha') hcs'⟩
    · simp only [if_neg hk] at hp ⊢
      refine ⟨hp.1, fun more hmore => ?_⟩
      obtain ⟨ha', hcs'⟩ := hp.2 more hmore
      exact .mk (hE _ _ _ _ _ more more ha (fun _ => rfl) ha') hcs'

theorem assignCostumesList_dressing [Lasting I] (hE : Attiring E E' g) {x : X} :
    ∀ cs : List StoryNode, (∀ c ∈ cs, c.Conforms E x) →
      Dressing I (fun more cs' => ∀ c ∈ cs', Node.Conforms E' (g x more) c) (assignCostumesList cs)
  | [], _ => by
    rw [assignCostumesList]
    exact .pure fun _ => nofun
  | c :: cs, h => by
    obtain ⟨hc, hcs⟩ := List.forall_mem_cons.1 h
    rw [assignCostumesList]
    refine (assignCostumes_dressing hE c hc).bind fun c' => ?_
    refine (assignCostumesList_dressing hE cs hcs).bind fun cs' => ?_
    exact .pure fun _ hcs' hc' => List.forall_mem_cons.2 ⟨hc', hcs'⟩

end

end Dressing

/-! ## Steady conditions -/

/-- The second state is of the same object and marked like the first. -/
def State.Akin (s s' : State) : Prop :=
  s'.object = s.object ∧ s'.firstOccurrence = s.firstOccurrence

/-- A condition on nodes that only depends on the objects that the states are of and on their marks. -/
def Steady (P : StoryKind → Attributes → Prop) : Prop :=
  ∀ k a a', P k a → a.Matched (fun _ => Value.Updated State.Akin) a' → P k a'

section Steadiness

variable {P : StoryKind → Attributes → Prop} {n : StoryNode} {s s' : State}

theorem State.Located.akin {place : Option Object} (h : s.Located place s') : s.Akin s' := by
  obtain ⟨location, rfl, -⟩ := h
  exact ⟨rfl, rfl⟩

theorem State.Wears.akin {outfits : Ledger Outfit} (h : State.Wears outfits s s') : s.Akin s' := by
  rcases h with ⟨-, rfl⟩ | ⟨-, -, rfl⟩
  · exact ⟨rfl, rfl⟩
  · exact ⟨rfl, rfl⟩

theorem State.Tempered.akin (h : s.Tempered s') : s.Akin s' := by
  rcases h with ⟨-, rfl⟩ | ⟨-, rfl, -⟩
  · exact ⟨rfl, rfl⟩
  · exact ⟨rfl, rfl⟩

theorem State.Burdened.akin (h : s.Burdened s') : s.Akin s' := by
  obtain ⟨duties, rfl⟩ := h
  exact ⟨rfl, rfl⟩

theorem Steady.located (hP : Steady P) (h : n.Everywhere P) : (assignLocations none n).Everywhere P :=
  Node.everywhere_iff_conforms.2 (assignLocations_conforms (R := fun _ _ => True)
    (fun _ _ _ _ _ _ _ => trivial)
    (fun _ k a a' _ _ ha _ ha' => hP k a a' ha (ha'.imp fun _ _ _ hv => hv.imp fun _ _ => State.Located.akin))
    trivial (Node.everywhere_iff_conforms.1 h))

theorem Steady.dressed [Lasting I] (hP : Steady P) (h : n.Everywhere P) :
    Yields I (fun p => p.1.Everywhere P) ((assignCostumes n).run {}) := by
  have hworn : Attiring (Node.Alone P) (Node.Alone P) fun x _ => x := fun _ k a a' _ _ _ ha _ ha' =>
    hP k a a' ha (ha'.imp fun _ _ _ hv => hv.imp fun _ _ => State.Wears.akin)
  refine (assignCostumes_dressing hworn n (Node.everywhere_iff_conforms.1 h) {}).imp fun p hp => ?_
  exact Node.everywhere_iff_conforms.2 (hp.2 p.2 (.refl _))

end Steadiness

end SpaceOpera
