import SpaceOpera.Proofs.Editor.Preservation

/-!
# Joined events

Joining the events of a paragraph goes along it with one node held back, which the next event may still be put
together with.  A pair is not conjoinable itself, so pairs never grow and never nest: what a paragraph comes
to is its children, some neighbours in pairs (`Paired`), and taking the pairs apart gives the story back
(`conjoin_joined`).  The chance of joining is the last thing an editor looks at, so two editors that differ in it
alone come to stories that differ in their pairs alone.
-/

namespace SpaceOpera

open List (Forall₂)

/-- Nodes before and after some conjoinable neighbours are put together in pairs. -/
inductive Paired : List StoryNode → List StoryNode → Prop
  | nil : Paired [] []
  | single {ns ns' : List StoryNode} (n : StoryNode) (h : Paired ns ns') :
      Paired (n :: ns) (n :: ns')
  | pair {m n : StoryNode} {ns ns' : List StoryNode} (hm : m.isConjoinable = true)
      (hn : n.isConjoinable = true) (h : Paired ns ns') :
      Paired (m :: n :: ns) (conjoined m n :: ns')

/-- The two cannot be joined. -/
def Apart (m n : StoryNode) : Prop :=
  (m.isConjoinable && n.isConjoinable) = false

/-- The children of a paragraph before and after joining. -/
structure Rejoined (chance : Nat) (cs cs' : List StoryNode) : Prop where
  paired : Paired cs cs'
  never : chance = 0 → cs' = cs
  always : 100 ≤ chance → cs'.IsChain Apart

/-- The pair was two conjoinable neighbours in a paragraph of the story. -/
def JoinedFrom (story c : StoryNode) : Prop :=
  ∃ m n, c.children = [m, n] ∧ m.isConjoinable = true ∧ n.isConjoinable = true ∧
    ∃ p ∈ story.preorder, p.kind = .paragraph ∧ [m, n] <:+: p.children

/-- A story before and after joining with the chance given, in percent. -/
structure Joined (chance : Nat) (story out : StoryNode) : Prop where
  unjoined : unjoin out = story
  pairs : ∀ c ∈ out.preorder, c.kind = .conjoined → JoinedFrom story c
  never : chance = 0 → out = story
  always : 100 ≤ chance → ∀ p ∈ out.preorder, p.kind = .paragraph → p.children.IsChain Apart

variable {chance : Nat} {m n held c p : StoryNode} {ns ns' cs cs' : List StoryNode}

/-! ## Pairs -/

section Pairs

theorem ne_conjoined_of_isConjoinable (h : n.isConjoinable = true) : n.kind ≠ .conjoined := by
  intro hk
  unfold Node.isConjoinable Node.event? at h
  rw [hk] at h
  cases h

/-- A pair cannot be joined to anything. -/
theorem isConjoinable_conjoined (m n : StoryNode) : (conjoined m n).isConjoinable = false := rfl

/-- The pair in front is two events side by side. -/
theorem Paired.of_conjoined (hm : m.isConjoinable = true) (hn : n.isConjoinable = true)
    (h : Paired (conjoined m n :: ns) ns') : Paired (m :: n :: ns) ns' := by
  cases h with
  | single _ h => exact .pair hm hn h
  | pair hpair =>
    rw [isConjoinable_conjoined] at hpair
    cases hpair

/-- What stands among the pairs stood there before, or is a pair of neighbours. -/
theorem Paired.mem (h : Paired ns ns') (hc : c ∈ ns') : c ∈ ns ∨
    ∃ m n, c = conjoined m n ∧ m.isConjoinable = true ∧ n.isConjoinable = true ∧ [m, n] <:+: ns := by
  induction h with
  | nil => cases hc
  | single n _ ih =>
    rcases List.mem_cons.1 hc with rfl | hc
    · exact .inl List.mem_cons_self
    · obtain hc | ⟨m, n, hc, hm, hn, hinfix⟩ := ih hc
      · exact .inl (List.mem_cons_of_mem _ hc)
      · exact .inr ⟨m, n, hc, hm, hn, hinfix.trans (List.suffix_cons _ _).isInfix⟩
  | @pair m n ns ns' hm hn _ ih =>
    have hsuffix : ns <:+: m :: n :: ns := (List.suffix_append [m, n] ns).isInfix
    rcases List.mem_cons.1 hc with rfl | hc
    · exact .inr ⟨m, n, rfl, hm, hn, (List.prefix_append [m, n] ns).isInfix⟩
    · obtain hc | ⟨m', n', hc, hm', hn', hinfix⟩ := ih hc
      · exact .inl (hsuffix.subset hc)
      · exact .inr ⟨m', n', hc, hm', hn', hinfix.trans hsuffix⟩

end Pairs

/-! ## Along a paragraph -/

section Along

variable {I : Context → Prop} [Lasting I]

/-- What holds of the last node alone, and is kept where a node is joined to the one held back and where it is
not, holds of all that is left of a paragraph. -/
theorem conjoinFrom_induction {Q : StoryNode → List StoryNode → List StoryNode → Prop}
    (hlast : ∀ held, Q held [] [held])
    (hjoined : ∀ held n ns out, held.isConjoinable = true → n.isConjoinable = true → chance ≠ 0 →
      Q (conjoined held n) ns out → Q held (n :: ns) out)
    (hkept : ∀ held n ns out, (100 ≤ chance → Apart held n) → Q n ns out →
      Q held (n :: ns) (held :: out)) (held : StoryNode) (ns : List StoryNode) :
    Yields I (Q held ns) (conjoinFrom chance held ns) := by
  induction ns generalizing held with
  | nil =>
    rw [conjoinFrom]
    exact Yields.pure (hlast held)
  | cons n ns ih =>
    have hnext (happart : 100 ≤ chance → Apart held n) :
        Yields I (Q held (n :: ns)) (do
          let rest ← conjoinFrom chance n ns
          return held :: rest) := by
      refine (ih n).bind fun out hout => ?_
      exact Yields.pure (hkept held n ns out happart hout)
    rw [conjoinFrom]
    by_cases hboth : (held.isConjoinable && n.isConjoinable) = true
    · obtain ⟨hheld, hn⟩ := Bool.and_eq_true_iff.1 hboth
      rw [if_pos hboth]
      refine (Roll.chance_certain chance).bind fun joins hcertain => ?_
      obtain ⟨hnever, halways⟩ := hcertain
      cases joins with
      | true =>
        have hchance : chance ≠ 0 := fun hzero => Bool.noConfusion (hnever hzero)
        refine (ih (conjoined held n)).imp fun out hout => ?_
        exact hjoined held n ns out hheld hn hchance hout
      | false =>
        apply hnext
        intro hhundred
        exact Bool.noConfusion (halways hhundred)
    · rw [if_neg hboth]
      simp only [pure_bind, Bool.false_eq_true, ↓reduceIte]
      apply hnext
      intro _
      exact eq_false_of_ne_true hboth

theorem conjoinFrom_paired (held : StoryNode) (ns : List StoryNode) :
    Yields I (Paired (held :: ns)) (conjoinFrom chance held ns) := by
  apply conjoinFrom_induction (Q := fun held ns out => Paired (held :: ns) out)
  · intro held
    exact .single held .nil
  · intro held n ns out hheld hn _ hout
    exact hout.of_conjoined hheld hn
  · intro held n ns out _ hout
    exact .single held hout

theorem conjoinFrom_never (hchance : chance = 0) (held : StoryNode) (ns : List StoryNode) :
    Yields I (fun out => out = held :: ns) (conjoinFrom chance held ns) := by
  apply conjoinFrom_induction (Q := fun held ns out => out = held :: ns)
  · intro held
    rfl
  · intro held n ns out _ _ hne _
    exact absurd hchance hne
  · intro held n ns out _ hout
    rw [hout]

/-- Once nothing is left apart by chance, the node held back is only left before one that it cannot be joined to:
the next event, or a pair that begins with it. -/
theorem conjoinFrom_always (hchance : 100 ≤ chance) (held : StoryNode) (ns : List StoryNode) :
    Yields I (fun out => out.IsChain Apart ∧ ∃ first rest, out = first :: rest ∧
      (first = held ∨ first.isConjoinable = false)) (conjoinFrom chance held ns) := by
  apply conjoinFrom_induction (Q := fun held _ out => out.IsChain Apart ∧
    ∃ first rest, out = first :: rest ∧ (first = held ∨ first.isConjoinable = false))
  · intro held
    exact ⟨List.isChain_singleton held, held, [], rfl, .inl rfl⟩
  · rintro held n ns out - - - ⟨hchain, first, rest, hout, hfirst⟩
    refine ⟨hchain, first, rest, hout, .inr ?_⟩
    obtain rfl | hfirst := hfirst
    · exact isConjoinable_conjoined held n
    · exact hfirst
  · rintro held n ns out hkept ⟨hchain, first, rest, rfl, hfirst⟩
    refine ⟨List.isChain_cons_cons.2 ⟨?_, hchain⟩, held, first :: rest, rfl, .inl rfl⟩
    obtain rfl | hfirst := hfirst
    · exact hkept hchance
    · unfold Apart
      rw [hfirst, Bool.and_false]

theorem conjoinChildren_rejoined (chance : Nat) (cs : List StoryNode) :
    Yields I (Rejoined chance cs) (conjoinChildren chance cs) := by
  cases cs with
  | nil => exact Yields.pure ⟨.nil, fun _ => rfl, fun _ => List.isChain_nil⟩
  | cons n ns =>
    rw [conjoinChildren]
    have hpaired : Yields I (Paired (n :: ns)) (conjoinFrom chance n ns) := conjoinFrom_paired n ns
    by_cases hzero : chance = 0
    · refine (hpaired.and (conjoinFrom_never hzero n ns)).imp fun out hout => ?_
      exact ⟨hout.1, fun _ => hout.2, fun hhundred => by omega⟩
    by_cases hhundred : 100 ≤ chance
    · refine (hpaired.and (conjoinFrom_always hhundred n ns)).imp fun out hout => ?_
      exact ⟨hout.1, fun h => absurd h hzero, fun _ => hout.2.1⟩
    · refine hpaired.imp fun out hout => ?_
      exact ⟨hout, fun h => absurd h hzero, fun h => absurd h hhundred⟩

end Along

/-! ## Across a story -/

section Across

variable {I : Context → Prop} [Lasting I] {P : StoryNode → StoryNode → Prop}

/-- What holds of a paragraph when its children are joined, and of another node when it holds of its children, holds
of every node. -/
theorem conjoin_induction
    (hparagraph : ∀ a cs cs', Rejoined chance cs cs' → P ⟨.paragraph, a, cs⟩ ⟨.paragraph, a, cs'⟩)
    (hother : ∀ k a cs cs', k ≠ .paragraph → Forall₂ P cs cs' → P ⟨k, a, cs⟩ ⟨k, a, cs'⟩) :
    ∀ n : StoryNode, Yields I (P n) (conjoin chance n)
  | ⟨k, a, cs⟩ => by
    rw [conjoin]
    by_cases hk : k = .paragraph
    · subst hk
      rw [if_pos rfl]
      refine (conjoinChildren_rejoined chance cs).bind fun cs' hcs' => ?_
      exact Yields.pure (hparagraph a cs cs' hcs')
    · rw [if_neg hk]
      have hcs : ∀ c ∈ cs, Yields I (P c) (conjoin chance c) := fun c hc =>
        have : sizeOf c < sizeOf cs := List.sizeOf_lt_of_mem hc
        conjoin_induction hparagraph hother c
      refine (conjoinList_yields chance hcs).bind fun cs' hcs' => ?_
      exact Yields.pure (hother k a cs cs' hk hcs')
  termination_by n => sizeOf n

end Across

/-! ## Apart again -/

section Unjoining

theorem unjoinList_cons (hc : c.kind ≠ .conjoined) (cs : List StoryNode) :
    unjoinList (c :: cs) = unjoin c :: unjoinList cs := by
  rw [unjoinList, if_neg hc, List.singleton_append]

/-- Taking the pairs apart gives the nodes that they were made of. -/
theorem Paired.unjoinList (h : Paired ns ns') : unjoinList ns' = SpaceOpera.unjoinList ns := by
  induction h with
  | nil => rfl
  | single n _ ih => rw [SpaceOpera.unjoinList, SpaceOpera.unjoinList, ih]
  | @pair m n ns ns' hm hn _ ih =>
    have hm := ne_conjoined_of_isConjoinable hm
    have hn := ne_conjoined_of_isConjoinable hn
    have hpair : (unjoin (conjoined m n)).children = [unjoin m, unjoin n] := by
      rw [conjoined, unjoin, unjoinList_cons hm, unjoinList_cons hn, SpaceOpera.unjoinList]
    have hkind : (conjoined m n).kind = .conjoined := rfl
    rw [SpaceOpera.unjoinList, if_pos hkind, hpair, ih, unjoinList_cons hm, unjoinList_cons hn]
    rfl

theorem unjoinList_congr
    (h : Forall₂ (fun c c' : StoryNode => c'.kind = c.kind ∧ unjoin c' = unjoin c) cs cs') :
    unjoinList cs' = unjoinList cs := by
  induction h with
  | nil => rfl
  | cons hc _ ih =>
    obtain ⟨hkind, hunjoin⟩ := hc
    rw [unjoinList, unjoinList, hkind, hunjoin, ih]

/-- Joining is undone by taking the pairs apart, in every story. -/
theorem unjoin_conjoin (chance : Nat) (story : StoryNode) (ctx : Context) :
    unjoin ((conjoin chance story).run ctx).1 = unjoin story := by
  have h : Yields (fun _ => True) (fun out => out.kind = story.kind ∧ unjoin out = unjoin story)
      (conjoin chance story) := by
    apply conjoin_induction (P := fun c c' => c'.kind = c.kind ∧ unjoin c' = unjoin c)
    · intro a cs cs' hcs
      refine ⟨rfl, ?_⟩
      rw [unjoin, unjoin, hcs.paired.unjoinList]
    · intro k a cs cs' _ hcs
      refine ⟨rfl, ?_⟩
      rw [unjoin, unjoin, unjoinList_congr hcs]
  exact (h ctx trivial).1.2

/-- A story without pairs has none to take apart. -/
theorem unjoin_eq_self : ∀ n : StoryNode, (∀ c ∈ n.preorder, c.kind ≠ .conjoined) → unjoin n = n
  | ⟨k, a, cs⟩, h => by
    have hcs : ∀ ds : List StoryNode, ds ⊆ cs → unjoinList ds = ds := by
      intro ds
      induction ds with
      | nil => exact fun _ => rfl
      | cons d ds ih =>
        intro hsub
        obtain ⟨hd, hds⟩ := List.cons_subset.1 hsub
        have hpre : ∀ c ∈ d.preorder, c.kind ≠ .conjoined := fun c hc =>
          h c (Node.mem_preorder_iff.2 (.inr ⟨d, hd, hc⟩))
        have : sizeOf d < sizeOf cs := List.sizeOf_lt_of_mem hd
        rw [unjoinList_cons (hpre d d.mem_preorder_self), unjoin_eq_self d hpre, ih hds]
    rw [unjoin, hcs cs (List.Subset.refl cs)]
  termination_by n => sizeOf n

end Unjoining

/-! ## Where pairs come from -/

section Origins

/-- Whatever is found below a paragraph was below it before, or is a pair of neighbours. -/
theorem Paired.mem_preorder {d : StoryNode} (h : Paired ns ns') (hd : d ∈ ns') (hc : c ∈ d.preorder) :
    (∃ d ∈ ns, c ∈ d.preorder) ∨ ∃ m n, c = conjoined m n ∧ m.isConjoinable = true ∧
      n.isConjoinable = true ∧ [m, n] <:+: ns := by
  obtain hd | ⟨m, n, rfl, hm, hn, hinfix⟩ := h.mem hd
  · exact .inl ⟨d, hd, hc⟩
  obtain rfl | ⟨d, hd, hc⟩ := Node.mem_preorder_iff.1 hc
  · exact .inr ⟨m, n, rfl, hm, hn, hinfix⟩
  · exact .inl ⟨d, hinfix.subset hd, hc⟩

theorem JoinedFrom.below (hn : n ∈ p.children) (h : JoinedFrom n c) : JoinedFrom p c := by
  obtain ⟨m, m', hchildren, hm, hm', d, hd, hkind, hinfix⟩ := h
  exact ⟨m, m', hchildren, hm, hm', d, Node.mem_preorder_iff.2 (.inr ⟨n, hn, hd⟩), hkind, hinfix⟩

/-- Every pair was two neighbours. -/
theorem conjoin_origins (chance : Nat) (story : StoryNode) (ctx : Context)
    (hplain : ∀ c ∈ story.preorder, c.kind ≠ .conjoined) :
    ∀ c ∈ ((conjoin chance story).run ctx).1.preorder, c.kind = .conjoined → JoinedFrom story c := by
  refine (conjoin_induction (I := fun _ => True) (P := fun n n' => (∀ c ∈ n.preorder, c.kind ≠ .conjoined) →
    ∀ c ∈ n'.preorder, c.kind = .conjoined → JoinedFrom n c) ?_ ?_ story ctx trivial).1 hplain
  · intro a cs cs' hcs hplain c hc hkind
    obtain rfl | ⟨d, hd, hc⟩ := Node.mem_preorder_iff.1 hc
    · cases hkind
    obtain hbelow | ⟨m, n, rfl, hm, hn, hinfix⟩ := hcs.paired.mem_preorder hd hc
    · exact absurd hkind (hplain c (Node.mem_preorder_iff.2 (.inr hbelow)))
    · exact ⟨m, n, rfl, hm, hn, _, Node.mem_preorder_self _, rfl, hinfix⟩
  · intro k a cs cs' _ hcs hplain c hc hkind
    obtain rfl | ⟨d', hd', hc⟩ := Node.mem_preorder_iff.1 hc
    · exact absurd hkind (hplain ⟨k, a, cs⟩ (Node.mem_preorder_self _))
    obtain ⟨d, hd, hdd⟩ := exists_of_mem_right hcs hd'
    have hplain : ∀ c ∈ d.preorder, c.kind ≠ .conjoined := fun c hc =>
      hplain c (Node.mem_preorder_iff.2 (.inr ⟨d, hd, hc⟩))
    exact (hdd hplain c hc hkind).below hd

end Origins

/-! ## Certain chances -/

section Certain

/-- With no chance of joining a story stays as it is. -/
theorem conjoin_never (hchance : chance = 0) (story : StoryNode) (ctx : Context) :
    ((conjoin chance story).run ctx).1 = story := by
  have h : Yields (fun _ => True) (fun out => story = out) (conjoin chance story) := by
    apply conjoin_induction (P := Eq)
    · intro a cs cs' hcs
      rw [hcs.never hchance]
    · intro k a cs cs' _ hcs
      rw [List.forall₂_eq_eq_eq] at hcs
      rw [hcs]
  exact ((h ctx trivial).1).symm

theorem Node.IsBeat.ne_paragraph (hn : n.IsBeat) (hc : c ∈ n.preorder) : c.kind ≠ .paragraph := by
  obtain ⟨e, a, rfl⟩ := hn
  obtain rfl | ⟨d, hd, -⟩ := Node.mem_preorder_iff.1 hc
  · exact nofun
  · cases hd

/-- When everything is joined that can be, nothing is left in a paragraph that could be joined. -/
theorem conjoin_always (hchance : 100 ≤ chance) (story : StoryNode) (ctx : Context)
    (hparagraphs : ∀ p ∈ story.preorder, p.kind = .paragraph → ∀ n ∈ p.children, n.IsBeat) :
    ∀ p ∈ ((conjoin chance story).run ctx).1.preorder, p.kind = .paragraph →
      p.children.IsChain Apart := by
  refine (conjoin_induction (I := fun _ => True)
    (P := fun n n' => (∀ p ∈ n.preorder, p.kind = .paragraph → ∀ m ∈ p.children, Node.IsBeat m) →
      ∀ p ∈ n'.preorder, p.kind = .paragraph → p.children.IsChain Apart)
    ?_ ?_ story ctx trivial).1 hparagraphs
  · intro a cs cs' hcs hparagraphs p hp hkind
    have hbeats : ∀ n ∈ cs, n.IsBeat := hparagraphs _ (Node.mem_preorder_self _) rfl
    obtain rfl | ⟨d, hd, hp⟩ := Node.mem_preorder_iff.1 hp
    · exact hcs.always hchance
    obtain ⟨n, hn, hp⟩ | ⟨m, n, rfl, -⟩ := hcs.paired.mem_preorder hd hp
    · exact absurd hkind ((hbeats n hn).ne_paragraph hp)
    · cases hkind
  · intro k a cs cs' hk hcs hparagraphs p hp hkind
    obtain rfl | ⟨d', hd', hp⟩ := Node.mem_preorder_iff.1 hp
    · exact absurd hkind hk
    obtain ⟨d, hd, hdd⟩ := exists_of_mem_right hcs hd'
    have hparagraphs : ∀ p ∈ d.preorder, p.kind = .paragraph → ∀ m ∈ p.children, m.IsBeat :=
      fun p hp => hparagraphs p (Node.mem_preorder_iff.2 (.inr ⟨d, hd, hp⟩))
    exact hdd hparagraphs p hp hkind

end Certain

/-! ## Editors -/

section Editors

/-- What comes of arranging a story but for its pairs, or why nothing comes of it. -/
def arrangedApart (story : StoryNode) : Except EditError StoryNode :=
  (splitIntoParagraphs story.flatten).map fun story => unjoin (assignReferents none story).1

theorem arranged_unjoined (chance : Nat) (story : StoryNode) (ctx : Context) :
    ((Editor.arranged chance story).run.run ctx).1.map unjoin = arrangedApart story := by
  unfold Editor.arranged arrangedApart
  cases splitIntoParagraphs story.flatten with
  | error err => rfl
  | ok story => exact congrArg Except.ok (unjoin_conjoin chance (assignReferents none story).1 ctx)

/-- An edit but for its pairs, and who is introduced by then, in steps that do not ask for the chance of
joining. -/
def editedApart (introduced : Roster) (draft : StoryNode) (narration : Narration) :
    Except EditError StoryNode × Roster :=
  match (Editor.annotated draft).run.run narration with
  | (.error err, _) => (.error err, introduced)
  | (.ok story, narration) =>
    let told := ((Editor.described introduced story).run narration.context).1
    (arrangedApart told.1, told.2)

theorem edit_unjoined (e : Editor) (draft : StoryNode) (narration : Narration) :
    (((e.edit draft).run narration).1.1.map unjoin, ((e.edit draft).run narration).1.2.introduced) =
      editedApart e.introduced draft narration := by
  unfold Editor.edit editedApart
  simp only [StateT.run_bind]
  generalize (Editor.annotated draft).run.run narration = annotated
  obtain ⟨err | story, narration⟩ := annotated
  · rfl
  · exact Prod.ext (arranged_unjoined _ _ _) rfl

/-- Joining puts conjoinable neighbours together in pairs, which can be taken apart again; so two editors that
differ in the chance of joining alone come to the same story once its pairs are taken apart. -/
theorem conjoin_joined {story : StoryNode} (hplain : ∀ c ∈ story.preorder, c.kind ≠ .conjoined)
    (hparagraphs : ∀ p ∈ story.preorder, p.kind = .paragraph → ∀ n ∈ p.children, n.IsBeat) :
    (∀ chance ctx, Joined chance story ((conjoin chance story).run ctx).1) ∧
      ∀ (e e' : Editor) (draft : StoryNode) (narration : Narration), e.introduced = e'.introduced →
        ((e.edit draft).run narration).1.1.map unjoin =
            ((e'.edit draft).run narration).1.1.map unjoin ∧
          ((e.edit draft).run narration).1.2.introduced =
            ((e'.edit draft).run narration).1.2.introduced := by
  constructor
  · intro chance ctx
    constructor
    case unjoined => rw [unjoin_conjoin, unjoin_eq_self story hplain]
    case pairs => exact conjoin_origins chance story ctx hplain
    case never => exact fun hchance => conjoin_never hchance story ctx
    case always => exact fun hchance => conjoin_always hchance story ctx hparagraphs
  · intro e e' draft narration hintroduced
    have he := edit_unjoined e draft narration
    have he' := edit_unjoined e' draft narration
    rw [hintroduced, ← he', Prod.mk.injEq] at he
    exact he

/-- Three events side by side in a paragraph, that all could be joined to a neighbour. -/
def trio : StoryNode :=
  { kind := .story, children := [{ kind := .paragraph, children :=
    [StoryNode.ofEvent .drone, StoryNode.ofEvent .emote, StoryNode.ofEvent .lookAround] }] }

/-- The first two of the three events may become a pair; the last one is left over then. -/
theorem conjoin_joined_trio :
    (∀ c ∈ trio.preorder, c.kind ≠ .conjoined) ∧
      (∀ p ∈ trio.preorder, p.kind = .paragraph → ∀ n ∈ p.children, n.IsBeat) ∧
      Joined 100 trio ((conjoin 100 trio).run stillness.context).1 := by
  have hplain : ∀ c ∈ trio.preorder, c.kind ≠ .conjoined := by decide
  have hparagraphs : ∀ p ∈ trio.preorder, p.kind = .paragraph → ∀ n ∈ p.children, n.IsBeat := by
    intro p hp hkind n hn
    have hbeat : ∀ d ∈ [Event.drone, .emote, .lookAround].map StoryNode.ofEvent, d.IsBeat := by
      intro d hd
      obtain ⟨e, -, rfl⟩ := List.mem_map.1 hd
      exact ⟨e, {}, rfl⟩
    obtain rfl | ⟨d, hd, hp⟩ := Node.mem_preorder_iff.1 hp
    · cases hkind
    obtain rfl := List.mem_singleton.1 hd
    obtain rfl | ⟨d, hd, hp⟩ := Node.mem_preorder_iff.1 hp
    · exact hbeat n hn
    · exact absurd hkind ((hbeat d hd).ne_paragraph hp)
  exact ⟨hplain, hparagraphs, (conjoin_joined hplain hparagraphs).1 100 _⟩

end Editors

end SpaceOpera
