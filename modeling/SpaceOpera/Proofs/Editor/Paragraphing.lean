import Mathlib.Data.List.SplitBy
import SpaceOpera.Proofs.Editor.Preservation

/-!
# Where paragraphs break

The pass that breaks a scene into paragraphs remembers an object, the one that the paragraph at hand is about,
and it sets it only where a paragraph begins.  All that is about that object in one paragraph is about the same
one, so the pass could as well look back at the event before: the paragraphs are the runs of a relation
between neighbours (`paragraphsOf_eq`).  They are all of one piece, there is a reason for every break, and
no other paragraphs would do (`splitIntoParagraphs_broken`).
-/

namespace SpaceOpera

/-- Does a paragraph begin with this event, whatever stands before it? -/
def Node.startsParagraph (n : StoryNode) : Bool :=
  n.event?.any Event.startsParagraph

/-- A paragraph of one piece: one event that is not about anything in a state, or events about one object in
its states.  What starts a paragraph stands at its front. -/
structure Coherent (p : List StoryNode) : Prop where
  nonempty : p ≠ []
  subject : (∃ n, p = [n] ∧ n.stateSubject? = none) ∨
    ∃ o, ∀ n ∈ p, ∃ o', n.stateSubject? = some o' ∧ (o == o') = true
  opening : ∀ n ∈ p.tail, n.startsParagraph = false

/-- The second of two neighbours cannot stand in the paragraph of the first. -/
def Breaks (m n : StoryNode) : Prop :=
  n.startsParagraph = true ∨ n.stateSubject? = none ∨ (n.stateSubject? == m.stateSubject?) = false

/-- Events in paragraphs of one piece, with a reason for every break. -/
structure Broken (es : List StoryNode) (ps : List (List StoryNode)) : Prop where
  events : ps.flatten = es
  coherent : ∀ p ∈ ps, Coherent p
  breaks : ps.IsChain fun p q => ∀ m ∈ p.getLast?, ∀ n ∈ q.head?, Breaks m n

/-- Does the second of two neighbours stand in the paragraph of the first? -/
def goesOn (m n : StoryNode) : Bool :=
  !breaksBefore m.stateSubject? n

variable {m n : StoryNode} {p ns es : List StoryNode} {ps : List (List StoryNode)}

/-! ## Neighbours -/

section Neighbours

theorem goesOn_iff : goesOn m n = true ↔ n.startsParagraph = false ∧
    ∃ o o', m.stateSubject? = some o ∧ n.stateSubject? = some o' ∧ (o == o') = true := by
  unfold goesOn breaksBefore Node.startsParagraph
  cases hm : m.stateSubject? with
  | none => cases n.stateSubject? <;> simp
  | some o =>
    cases hn : n.stateSubject? with
    | none => simp
    | some o' => simp [BEq.comm]

theorem goesOn_eq_false_iff : goesOn m n = false ↔ Breaks m n := by
  unfold goesOn breaksBefore Breaks Node.startsParagraph
  cases hm : m.stateSubject? with
  | none => cases n.stateSubject? <;> simp
  | some o =>
    cases hn : n.stateSubject? with
    | none => simp
    | some o' => cases n.event?.any Event.startsParagraph <;> simp

/-- What breaks after an event breaks after every event of its paragraph. -/
theorem breaksBefore_congr (h : goesOn m n = true) (d : StoryNode) :
    breaksBefore m.stateSubject? d = breaksBefore n.stateSubject? d := by
  obtain ⟨-, o, o', hm, hn, heq⟩ := goesOn_iff.1 h
  rw [hm, hn]
  unfold breaksBefore
  cases d.stateSubject? with
  | none => rfl
  | some o'' => simp only [Option.any_some, BEq.congr_right heq]

end Neighbours

/-! ## The scan -/

section Scan

/-- The paragraphs from the one on that ends in `m` so far: what is remembered for it serves as well as the
subject of `m`. -/
theorem paragraphsFrom_eq (subject : Option Object) (current : List StoryNode)
    (hsubject : ∀ n, breaksBefore subject n = breaksBefore m.stateSubject? n)
    (hcurrent : (current ++ [m]).IsChain fun m n => goesOn m n = true) :
    paragraphsFrom subject (current ++ [m]) ns = (current ++ m :: ns).splitBy goesOn := by
  induction ns generalizing subject current m with
  | nil =>
    have hne : current ++ [m] ≠ [] := by simp
    rw [paragraphsFrom, if_neg (by simp), List.splitBy_of_isChain hne hcurrent]
  | cons n ns ih =>
    rw [paragraphsFrom, hsubject n]
    by_cases hn : goesOn m n = true
    · have hbreaks : breaksBefore m.stateSubject? n = false := by
        simpa [goesOn] using hn
      have hsplit : current ++ m :: n :: ns = (current ++ [m]) ++ n :: ns := by simp
      rw [if_neg (by simp [hbreaks]), hsplit]
      apply ih
      · intro d
        rw [hsubject d, breaksBefore_congr hn d]
      · apply hcurrent.append (List.isChain_singleton n)
        simpa using hn
    · have hbreaks : breaksBefore m.stateSubject? n = true := by
        simpa [goesOn] using hn
      have hsplit : current ++ m :: n :: ns = (current ++ [m]) ++ n :: ns := by simp
      have hrest : paragraphsFrom n.stateSubject? [n] ns = (n :: ns).splitBy goesOn :=
        ih n.stateSubject? [] (fun _ => rfl) (List.isChain_singleton n)
      have hlast : ∀ d ∈ (current ++ [m]).getLast?, goesOn d n = false := by
        simpa using hn
      rw [if_pos hbreaks, if_neg (by simp), hrest, hsplit, List.splitBy_append_cons ns hlast,
        List.splitBy_of_isChain (by simp) hcurrent, List.singleton_append]

/-- The paragraphs are the runs of events that go on with one another. -/
theorem paragraphsOf_eq (es : List StoryNode) : paragraphsOf es = es.splitBy goesOn := by
  cases es with
  | nil => rfl
  | cons n ns =>
    have hbreaks : breaksBefore none n = true := by
      unfold breaksBefore
      cases n.stateSubject? <;> simp
    rw [paragraphsOf, paragraphsFrom, if_pos hbreaks]
    exact paragraphsFrom_eq n.stateSubject? [] (fun _ => rfl) (List.isChain_singleton n)

end Scan

/-! ## Runs -/

section Runs

theorem coherent_singleton (n : StoryNode) : Coherent [n] := by
  refine ⟨List.cons_ne_nil n [], ?_, by simp⟩
  cases hn : n.stateSubject? with
  | none => exact .inl ⟨n, rfl, hn⟩
  | some o =>
    refine .inr ⟨o, fun d hd => ?_⟩
    rw [List.mem_singleton.1 hd]
    exact ⟨o, hn, BEq.refl o⟩

theorem Coherent.goesOn (h : Coherent (m :: n :: ns)) : goesOn m n = true := by
  obtain ⟨-, hsubject, hopening⟩ := h
  obtain ⟨d, hd, -⟩ | ⟨o, ho⟩ := hsubject
  · cases hd
  obtain ⟨om, hm, hom⟩ := ho m List.mem_cons_self
  obtain ⟨on, hn, hon⟩ := ho n (List.mem_cons_of_mem m List.mem_cons_self)
  have hsame : (om == on) = true := BEq.trans (BEq.symm hom) hon
  exact goesOn_iff.2 ⟨hopening n List.mem_cons_self, om, on, hm, hn, hsame⟩

theorem Coherent.of_cons_cons (h : Coherent (m :: n :: ns)) : Coherent (n :: ns) := by
  obtain ⟨-, hsubject, hopening⟩ := h
  obtain ⟨d, hd, -⟩ | ⟨o, ho⟩ := hsubject
  · cases hd
  refine ⟨List.cons_ne_nil n ns, .inr ⟨o, ?_⟩, ?_⟩
  · intro d hd
    exact ho d (List.mem_cons_of_mem m hd)
  · intro d hd
    exact hopening d (List.mem_cons_of_mem n hd)

theorem Coherent.cons (hgoes : SpaceOpera.goesOn m n = true) (h : Coherent (n :: ns)) :
    Coherent (m :: n :: ns) := by
  obtain ⟨hstarts, om, on, hm, hn, hsame⟩ := goesOn_iff.1 hgoes
  obtain ⟨-, hsubject, hopening⟩ := h
  -- everything after `m` is about the subject of `n`, which is the subject of `m` by its names
  have hrest : ∀ d ∈ n :: ns, ∃ od, d.stateSubject? = some od ∧ (om == od) = true := by
    obtain ⟨d, hd, hnone⟩ | ⟨o, ho⟩ := hsubject
    · cases hd
      cases hn.symm.trans hnone
    obtain ⟨on', hn', hon⟩ := ho n List.mem_cons_self
    obtain rfl : on = on' := Option.some.inj (hn.symm.trans hn')
    intro d hd
    obtain ⟨od, hod, hood⟩ := ho d hd
    exact ⟨od, hod, BEq.trans hsame (BEq.trans (BEq.symm hon) hood)⟩
  refine ⟨List.cons_ne_nil m _, .inr ⟨om, ?_⟩, ?_⟩
  · intro d hd
    cases hd with
    | head => exact ⟨om, hm, BEq.refl om⟩
    | tail _ hd => exact hrest d hd
  · intro d hd
    cases hd with
    | head => exact hstarts
    | tail _ hd => exact hopening d hd

/-- Events of one piece are events that go on with one another. -/
theorem coherent_iff (hp : p ≠ []) : Coherent p ↔ p.IsChain fun m n => goesOn m n = true := by
  induction p with
  | nil => exact absurd rfl hp
  | cons m p ih =>
    cases p with
    | nil => exact ⟨fun _ => List.isChain_singleton m, fun _ => coherent_singleton m⟩
    | cons n ns =>
      rw [List.isChain_cons_cons, ← ih (List.cons_ne_nil n ns)]
      constructor
      · intro h
        exact ⟨h.goesOn, h.of_cons_cons⟩
      · rintro ⟨hgoes, h⟩
        exact h.cons hgoes

/-- There is one way to break events into paragraphs of one piece with a reason for every break. -/
theorem broken_iff : Broken es ps ↔ ps = paragraphsOf es := by
  rw [paragraphsOf_eq, eq_comm, List.splitBy_eq_iff]
  have hbreaks (hne : ∀ p ∈ ps, p ≠ []) :
      (ps.IsChain fun p q => ∀ m ∈ p.getLast?, ∀ n ∈ q.head?, Breaks m n) ↔
        ps.IsChain fun p q => ∃ hp hq, goesOn (p.getLast hp) (q.head hq) = false := by
    apply List.IsChain.iff_of_mem_imp
    intro p q hp hq
    simp only [List.getLast?_eq_getLast_of_ne_nil (hne p hp), List.head?_eq_some_head (hne q hq),
      Option.mem_some_iff, forall_eq', goesOn_eq_false_iff, hne p hp, hne q hq, ne_eq,
      not_false_eq_true, exists_true_left]
  constructor
  · rintro ⟨hevents, hcoherent, hchain⟩
    have hne : ∀ p ∈ ps, p ≠ [] := fun p hp => (hcoherent p hp).nonempty
    refine ⟨hevents.symm, fun hnil => hne [] hnil rfl, ?_, (hbreaks hne).1 hchain⟩
    intro p hp
    exact (coherent_iff (hne p hp)).1 (hcoherent p hp)
  · rintro ⟨hevents, hnil, hruns, hchain⟩
    have hne : ∀ p ∈ ps, p ≠ [] := fun p hp h => hnil (h ▸ hp)
    refine ⟨hevents.symm, ?_, (hbreaks hne).2 hchain⟩
    intro p hp
    exact (coherent_iff (hne p hp)).2 (hruns p hp)

end Runs

/-! ## Scenes -/

section Scenes

/-- A scene of one sequence of events is broken into paragraphs of one piece, where there is a reason to and
nowhere else. -/
theorem splitIntoParagraphs_broken (a b : Attributes) (hes : ∀ n ∈ es, n.event?.isSome = true) :
    ∃ ps, splitIntoParagraphs ⟨.scene, a, [⟨.eventSequence, b, es⟩]⟩ =
        .ok ⟨.scene, a, [StoryNode.sequence (ps.map fun p => { kind := .paragraph, children := p })]⟩ ∧
      Broken es ps ∧ ∀ qs, Broken es qs → qs = ps := by
  refine ⟨paragraphsOf es, ?_, broken_iff.2 rfl, ?_⟩
  · rw [splitIntoParagraphs, if_pos rfl, splitScene_eq_ok hes]
  · intro qs hqs
    exact broken_iff.1 hqs

/-- Two events of one character, one of another, one of nobody, and one of the other character again. -/
def rumbling : List StoryNode :=
  let ada := Object.ofCharacter ["Ada"] ⟨.feminine, .lead, .redhead⟩
  let bo := Object.ofCharacter ["Bo"] ⟨.masculine, .optimist, .redhead⟩
  let beat (e : Event) (o : Object) := (StoryNode.ofEvent e).set .subject (.state { object := o })
  [beat .drone ada, beat .emote ada, beat .emote bo, StoryNode.ofEvent .rumblingSound, beat .emote bo]

/-- The second event of the first character is the only one that goes on with a paragraph. -/
theorem splitIntoParagraphs_broken_rumbling :
    (∀ n ∈ rumbling, n.event?.isSome = true) ∧
      ∃ ps, splitIntoParagraphs ⟨.scene, {}, [⟨.eventSequence, {}, rumbling⟩]⟩ =
          .ok ⟨.scene, {}, [StoryNode.sequence
            (ps.map fun p => { kind := .paragraph, children := p })]⟩ ∧
        Broken rumbling ps ∧ ps.map List.length = [2, 1, 1, 1] := by
  have hevents : ∀ n ∈ rumbling, n.event?.isSome = true := by decide
  obtain ⟨ps, hsplit, hbroken, -⟩ := splitIntoParagraphs_broken {} {} hevents
  refine ⟨hevents, ps, hsplit, hbroken, ?_⟩
  rw [broken_iff.1 hbroken]
  decide

end Scenes

end SpaceOpera
