import SpaceOpera.Proofs.Plot.Threads

/-!
# What a closed run of threads holds

A run that begins and ends without threads answers every opening with exactly one closing (`Run.answered`),
searches only for those who are held captive (`Run.hunted`), and fights every skirmish to its end
(`Run.fought`).
-/

namespace SpaceOpera

/-! ## Openings, searches and skirmishes -/

/-- Does the node take the object away? -/
def Node.takes (n : PlotNode) (o : Object) : Bool :=
  (n.objectIn .disqualified).any (· == o)

/-- Does the node close a thread of the kind for the object? -/
def Node.concludes (n : PlotNode) (t : Thread) (o : Object) : Bool :=
  n.development? = some t.closing && (n.objectIn .object).any (· == o)

/-- Whatever opens a thread takes its victim away; before the victim is taken away again exactly one node
closes such a thread for it, in the place where that has to happen. -/
def Answered (t : Thread) (ks : List PlotNode) : Prop :=
  ∀ pre n post, ks = pre ++ n :: post → n.development? = some t.opening →
    ∃ o m s, n.objectIn t.victimRole = some o ∧ n.takes o = true ∧
      (post.takeWhile fun k => !k.takes o).filter (fun k => k.concludes t o) = [m] ∧
      t.place? n = some s ∧ m.setting? = some s

/-- Whoever is searched for has been kidnapped and is yet to be rescued, and is searched for in the place of
that rescue. -/
def Hunted (ks : List PlotNode) : Prop :=
  ∀ pre n post, ks = pre ++ n :: post → n.development? = some .locateAbductee →
    ∃ o s k m before between inner rest, n.objectIn .object = some o ∧
      n.objectIn .object2 = some s ∧ pre = before ++ k :: between ∧ post = inner ++ m :: rest ∧
      k.development? = some .kidnapping ∧ k.objectIn .object = some o ∧
      m.concludes .abduction o = true ∧ m.setting? = some s ∧
      ∀ j ∈ between ++ inner, j.takes o = false ∧ j.concludes .abduction o = false

/-- A party meets a band of goons, fights with them and vanquishes them, all in one setting. -/
structure Skirmish (n : PlotNode) (blows : List PlotNode) (m : PlotNode) : Prop where
  begins : n.development? = some .goonAmbush ∨ n.development? = some .goonEncounter
  fights : ∀ k ∈ blows,
    k.development? = some .protagonistAttack ∨ k.development? = some .awkwardCombat
  ends : m.development? = some .vanquished
  goons : ∃ g, n.objectIn .object = some g ∧ m.objectIn .object = some g ∧
    ∀ k ∈ blows, k.objectIn .object = some g
  party : ∃ v, n.get? .subject = some v ∧ m.get? .subject = some v
  setting : ∃ s, n.setting? = some s ∧ m.setting? = some s ∧ ∀ k ∈ blows, k.setting? = some s

/-- Whoever meets goons fights them to the end, and nobody fights any otherwise. -/
structure Fought (ks : List PlotNode) : Prop where
  met : ∀ pre n post, ks = pre ++ n :: post →
    n.development? = some .goonAmbush ∨ n.development? = some .goonEncounter →
    ∃ blows m rest, post = blows ++ m :: rest ∧ Skirmish n blows m
  blow : ∀ pre k post, ks = pre ++ k :: post →
    k.development? = some .protagonistAttack ∨ k.development? = some .awkwardCombat →
    ∃ before n earlier later m rest, pre = before ++ n :: earlier ∧ post = later ++ m :: rest ∧
      Skirmish n (earlier ++ k :: later) m

/-! ## Closed runs -/

section Closed

variable {w : World} {a b c : Ongoing w} {m n k : PlotNode} {ns ks : List PlotNode} {t : Thread}
  {o : Object} {s : Strand w}

theorem Node.takes_iff : n.takes o = true ↔ ∃ p, n.objectIn .disqualified = some p ∧ (p == o) = true := by
  unfold Node.takes
  cases n.objectIn .disqualified <;> simp

theorem not_takes_of_not_marks (h : ¬n.Marks o) : n.takes o = false := by
  by_contra htakes
  obtain ⟨p, hp, hpo⟩ := Node.takes_iff.1 (by simpa using htakes)
  exact h ⟨p, Or.inl hp, hpo⟩

theorem Strand.takes (s : Strand w) : s.opener.takes s.victim = true :=
  Node.takes_iff.2 ⟨_, s.pairs.opens.1, BEq.rfl⟩

theorem Strand.concludes (s : Strand w) : s.closer.concludes s.thread s.victim = true := by
  unfold Node.concludes
  rw [s.pairs.closing, s.pairs.found]
  simp

theorem Strand.not_takes (s : Strand w) : s.closer.takes o = false := by
  unfold Node.takes
  rw [s.pairs.closes.1]
  rfl

/-- What closes a thread for an object brings the object back. -/
theorem Turn.marks_of_concludes (h : Turn a n b) (hn : n.concludes t o = true) :
    ∃ r : Strand w, n = r.closer ∧ a.strands.Perm (r :: b.strands) ∧ (r.victim == o) = true := by
  unfold Node.concludes at hn
  rw [Bool.and_eq_true, decide_eq_true_eq] at hn
  have hstep := h.of_move hn.1
  rw [t.move_closing] at hstep
  obtain ⟨-, -, r, -, rfl, hperm⟩ := hstep
  refine ⟨r, rfl, hperm, ?_⟩
  simpa [r.pairs.found] using hn.2

theorem Turn.not_concludes (h : Turn a n b) (hn : ¬n.Marks o) : n.concludes t o = false := by
  by_contra hconcludes
  obtain ⟨r, rfl, -, hro⟩ := h.marks_of_concludes (by simpa using hconcludes)
  exact hn ⟨_, Or.inr r.pairs.closes.2, hro⟩

/-- While no thread is open for an object, none is closed before it is taken away. -/
theorem Run.none_concludes (h : Run a ns c) (ha : ∀ r ∈ a.strands, (o == r.victim) = false) :
    (ns.takeWhile fun k => !k.takes o).filter (fun k => k.concludes t o) = [] := by
  induction h with
  | nil => rfl
  | @cons a b c n ns hn _ ih =>
    cases htakes : n.takes o with
    | true => rw [List.takeWhile_cons_of_neg (by simp [htakes]), List.filter_nil]
    | false =>
      have hother : n.concludes t o = false := by
        by_contra hconcludes
        obtain ⟨r, -, hperm, hro⟩ := hn.marks_of_concludes (by simpa using hconcludes)
        have hfree := ha r (hperm.mem_iff.2 List.mem_cons_self)
        rw [BEq.comm, hro] at hfree
        cases hfree
      have hb : ∀ r ∈ b.strands, (o == r.victim) = false := by
        cases hn with
        | opens s h =>
          refine List.forall_mem_cons.2 ⟨?_, ha⟩
          by_contra hsame
          rw [Bool.not_eq_false, BEq.comm] at hsame
          exact absurd (Node.takes_iff.2 ⟨_, s.pairs.opens.1, hsame⟩) (by simp [htakes])
        | closes s h => exact fun r hr => ha r (h.mem_iff.2 (List.mem_cons_of_mem s hr))
        | meets | fights | parts | passes => exact ha
      rw [List.takeWhile_cons_of_pos (by simp [htakes]), List.filter_cons_of_neg (by simp [hother])]
      exact ih hb

/-- An open thread is closed by its own node, and by no other before its victim is taken away again. -/
theorem Run.concludes (h : Run a ns {}) (ha : Feasible a.strands) (hs : s ∈ a.strands) :
    (ns.takeWhile fun k => !k.takes s.victim).filter (fun k => k.concludes s.thread s.victim) =
      [s.closer] := by
  obtain ⟨inner, rest, b, rfl, hinner, hrest, hapart⟩ := h.closed ha hs List.not_mem_nil
  have hkept : ∀ k ∈ inner, (!k.takes s.victim) = true := by
    intro k hk
    rw [not_takes_of_not_marks (hinner k hk)]
    rfl
  have hnone : inner.filter (fun k => k.concludes s.thread s.victim) = [] := by
    rw [List.filter_eq_nil_iff]
    intro k hk
    obtain ⟨front, back, rfl⟩ := List.append_of_mem hk
    rw [List.append_assoc] at h
    obtain ⟨_, _, -, hturn, -⟩ := h.at
    rw [hturn.not_concludes (hinner k hk)]
    exact Bool.false_ne_true
  rw [List.takeWhile_append_of_pos hkept,
    List.takeWhile_cons_of_pos (by simp [s.not_takes]), List.filter_append, hnone,
    List.nil_append, List.filter_cons, if_pos s.concludes, hrest.none_concludes hapart]

theorem Run.answered (h : Run (w := w) {} ks {}) (t : Thread) :
    Answered t ks := by
  rintro pre n post rfl hn
  obtain ⟨a, b, hpre, hturn, hpost⟩ := h.at
  have hstep := hturn.of_move hn
  rw [t.move_opening] at hstep
  obtain ⟨-, s, rfl, rfl, rfl, hfeasible⟩ := hstep
  obtain ⟨place, hplace, hsetting⟩ := s.pairs.placed
  exact ⟨s.victim, s.closer, place, s.pairs.lost, s.takes,
    hpost.concludes hfeasible List.mem_cons_self, hplace, hsetting⟩

theorem Run.hunted (h : Run (w := w) {} ks {}) (hw : w.protagonists ≠ []) : Hunted ks := by
  rintro pre n post rfl hn
  obtain ⟨a, b, hpre, hturn, hpost⟩ := h.at
  have ha := hpre.feasible (.nil hw)
  obtain ⟨rfl, -, hpasses⟩ := hturn.of_move hn
  obtain ⟨s, hs, habduction, hobject, hplace⟩ := hpasses.search hn
  obtain ⟨setting, -, hsetting⟩ := s.pairs.placed
  rcases hpre.opened (.nil hw) hs with ⟨hnever, -⟩ | ⟨before, between, rfl, hbetween⟩
  · exact absurd hnever List.not_mem_nil
  obtain ⟨inner, rest, _, rfl, hinner, -, -⟩ := hpost.closed ha hs List.not_mem_nil
  have hkidnapped := s.pairs.opening
  have hlost := s.pairs.lost
  rw [habduction] at hkidnapped hlost
  refine ⟨s.victim, setting, s.opener, s.closer, before, between, inner, rest, hobject,
    hplace.trans hsetting, rfl, rfl, hkidnapped, hlost, habduction ▸ s.concludes, hsetting, ?_⟩
  intro j hj
  have hmarks : ¬j.Marks s.victim := (List.mem_append.1 hj).elim (hbetween j) (hinner j)
  refine ⟨not_takes_of_not_marks hmarks, ?_⟩
  have hmem : j ∈ (before ++ s.opener :: between) ++ n :: (inner ++ s.closer :: rest) := by
    rcases List.mem_append.1 hj with hj | hj <;> simp [hj]
  obtain ⟨front, back, hsplit⟩ := List.append_of_mem hmem
  rw [hsplit] at h
  obtain ⟨_, _, -, hturn', -⟩ := h.at
  exact hturn'.not_concludes hmarks

/-- A skirmish that has begun is fought to its end. -/
theorem Node.Meets.skirmish {blows : List PlotNode} (hn : n.Meets) (hm : n.Parts m)
    (hblows : ∀ k ∈ blows, n.Fights k)
    (hdevelopments : ∀ k ∈ blows, k.development?.isSome = true) : Skirmish n blows m := by
  have hpart : ∀ k ∈ blows, ∃ d, k.development? = some d ∧ d.move = .fights ∧
      k.objectIn .object = n.objectIn .object := by
    intro k hk
    rcases (hblows k hk).part with h | ⟨hkind, -⟩
    · exact h
    · have hsome := hdevelopments k hk
      rw [Node.development?, hkind] at hsome
      cases hsome
  obtain ⟨g, hg⟩ := Option.isSome_iff_exists.1 hn.goons
  obtain ⟨v, hv⟩ := Option.isSome_iff_exists.1 hn.party
  obtain ⟨s, hs⟩ := Option.isSome_iff_exists.1 hn.setting
  refine ⟨?_, ?_, hm.development, ⟨g, hg, hm.goons.trans hg, ?_⟩, ⟨v, hv, hm.party.trans hv⟩,
    ⟨s, hs, hm.setting.trans hs, fun k hk => (hblows k hk).setting.trans hs⟩⟩
  · obtain ⟨d, hd, hmove⟩ := hn.development
    cases d <;> first | exact Or.inl hd | exact Or.inr hd | cases hmove
  · intro k hk
    obtain ⟨d, hd, hmove, -⟩ := hpart k hk
    cases d <;> first | exact Or.inl hd | exact Or.inr hd | cases hmove
  · intro k hk
    obtain ⟨d, -, -, hgoons⟩ := hpart k hk
    exact hgoons.trans hg

theorem Run.fought (h : Run (w := w) {} ks {})
    (hdevelopments : ∀ k ∈ ks, k.development?.isSome = true) : Fought ks := by
  constructor
  · rintro pre n post rfl hn
    obtain ⟨a, b, -, hturn, hpost⟩ := h.at
    have hmeets : n.Meets ∧ b = ⟨a.strands, some n⟩ := by
      rcases hn with hn | hn
      · exact ⟨(hturn.of_move hn).2.2, (hturn.of_move hn).2.1⟩
      · exact ⟨(hturn.of_move hn).2.2, (hturn.of_move hn).2.1⟩
    obtain ⟨hmeets, rfl⟩ := hmeets
    obtain ⟨blows, m, rest, rfl, hm, hblows⟩ := Run.parted hpost
    refine ⟨blows, m, rest, rfl, hmeets.skirmish hm hblows fun k hk => hdevelopments k ?_⟩
    simp [hk]
  · rintro pre k post rfl hk
    obtain ⟨a, b, hpre, hturn, hpost⟩ := h.at
    have hfights : b = a ∧ ∃ n, a.fight = some n ∧ n.Fights k := by
      rcases hk with hk | hk
      · exact hturn.of_move hk
      · exact hturn.of_move hk
    obtain ⟨rfl, n, hfight, hk⟩ := hfights
    obtain ⟨ss, fight⟩ := b
    obtain rfl : fight = some n := hfight
    rcases hpre.met rfl with ⟨hnever, -⟩ | ⟨before, earlier, rfl, hmeets, hearlier⟩
    · cases hnever
    obtain ⟨later, m, rest, rfl, hm, hlater⟩ := Run.parted hpost
    refine ⟨before, n, earlier, later, m, rest, rfl, rfl, hmeets.skirmish hm ?_ ?_⟩
    · exact List.forall_mem_append.2 ⟨hearlier, List.forall_mem_cons.2 ⟨hk, hlater⟩⟩
    · intro j hj
      apply hdevelopments
      rcases List.mem_append.1 hj with hj | hj
      · simp [hj]
      · rcases List.mem_cons.1 hj with rfl | hj <;> simp [*]

end Closed

end SpaceOpera
