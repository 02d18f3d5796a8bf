import Mathlib.Data.List.Perm.Basic
import SpaceOpera.Plotter.Subplot
import SpaceOpera.Proofs.Plot.Staged

/-!
# The threads of a plot

Three developments open a thread that another one has to close: a kidnapping, the loss of an item and a
cave-in.  A skirmish is a thread of its own, and while it lasts nothing else happens.  `Run` reads the nodes
of a plot in order and keeps the open threads, each with the node that opened it and the node that will close
it; the threads need not close in the order of brackets.  Whoever has an open thread is away, and nobody else
is (`Run.track`), an open thread closes by its own node (`Run.closed`) and was opened by it (`Run.opened`).
-/

namespace SpaceOpera

/-! ## Threads -/

/-- What stays open until a later development closes it. -/
inductive Thread where
  | abduction
  | loss
  | burial
deriving DecidableEq

namespace Thread

/-- The development that opens the thread. -/
def opening : Thread → Development
  | abduction => .kidnapping
  | loss => .loseItem
  | burial => .trappedInRubble

/-- The development that closes the thread. -/
def closing : Thread → Development
  | abduction => .rescue
  | loss => .recoverItem
  | burial => .extractedFromRubble

/-- The role that the opening gives to what it takes away. -/
def victimRole : Thread → Role
  | abduction | loss => .object
  | burial => .subject

/-- Where the thread has to be closed: in the kidnapper's home if there is one, and else where it was
opened. -/
def place? : Thread → PlotNode → Option Object
  | abduction, n => ((n.objectIn .subject).bind Object.home).or n.setting?
  | loss, n | burial, n => n.setting?

/-- Those whom the opening leaves behind with a duty. -/
def charged : Thread → PlotNode → List Object
  | abduction, n | burial, n => n.membersOf .bystanders
  | loss, n => n.membersOf .subject ++ n.membersOf .bystanders

/-- Those who have done their duty by the closing. -/
def cleared : Thread → PlotNode → List Object
  | abduction, n | burial, n => n.membersOf .subject
  | loss, n => n.membersOf .subject ++ n.membersOf .bystanders

/-- What a thread of the kind can take away. -/
def victims (w : World) : Thread → List Object
  | abduction | burial => w.protagonists
  | loss => w.macguffins

end Thread

/-- One node opens a thread for the object and the other closes it: they agree on the object, on the place
and on who is charged with the closing. -/
structure Pairs (w : World) (t : Thread) (o : Object) (n m : PlotNode) : Prop where
  mem : o ∈ t.victims w
  opening : n.development? = some t.opening
  closing : m.development? = some t.closing
  opens : n.Opens o
  closes : m.Closes o
  lost : n.objectIn t.victimRole = some o
  found : m.objectIn .object = some o
  placed : ∃ s, t.place? n = some s ∧ m.setting? = some s
  crew : (t.charged n).Perm (t.cleared m)
  cast : ∀ b ∈ t.charged n, b ∈ w.protagonists
  apart : (t.charged n).Pairwise fun a b => (a == b) = false

/-- An open thread, with the node that opened it and the node that is to close it. -/
structure Strand (w : World) where
  thread : Thread
  victim : Object
  opener : PlotNode
  closer : PlotNode
  pairs : Pairs w thread victim opener closer

/-! ## Skirmishes -/

/-- What a development does to the threads and to a skirmish. -/
inductive Move where
  | opens (t : Thread)
  | closes (t : Thread)
  | meets
  | fights
  | parts
  | passes
deriving DecidableEq

/-- The move of a development. -/
def Development.move : Development → Move
  | kidnapping => .opens .abduction
  | loseItem => .opens .loss
  | trappedInRubble => .opens .burial
  | rescue => .closes .abduction
  | recoverItem => .closes .loss
  | extractedFromRubble => .closes .burial
  | goonAmbush | goonEncounter => .meets
  | protagonistAttack | awkwardCombat => .fights
  | vanquished => .parts
  | _ => .passes

/-- The node begins a skirmish of a party with a band of goons. -/
structure Node.Meets (n : PlotNode) : Prop where
  unmarked : n.Unmarked
  development : ∃ d, n.development? = some d ∧ d.move = .meets
  party : (n.get? .subject).isSome = true
  goons : (n.objectIn .object).isSome = true
  setting : n.setting?.isSome = true

/-- The node is of the skirmish that the other began: a development of the fight, or a place for one. -/
structure Node.Fights (m n : PlotNode) : Prop where
  unmarked : n.Unmarked
  setting : n.setting? = m.setting?
  part : (∃ d, n.development? = some d ∧ d.move = .fights ∧ n.objectIn .object = m.objectIn .object) ∨
    n.kind = .hole Rule.inCombat ∧ n.objectIn .goons = m.objectIn .object

/-- The node ends the skirmish that the other began. -/
structure Node.Parts (m n : PlotNode) : Prop where
  unmarked : n.Unmarked
  development : n.development? = some .vanquished
  setting : n.setting? = m.setting?
  goons : n.objectIn .object = m.objectIn .object
  party : n.get? .subject = m.get? .subject

section Runs

variable {w : World}

/-! ## Runs -/

/-- Someone is searched for, in the place where the thread closes. -/
def Searched (ss : List (Strand w)) (abductee location : Option Object) : Prop :=
  ∃ s ∈ ss, s.thread = .abduction ∧ abductee = some s.victim ∧ location = s.closer.setting?

/-- The node is none of a skirmish and leaves the threads as they are.  A search, and a place for one, is
for someone who is held captive. -/
structure Passes (ss : List (Strand w)) (n : PlotNode) : Prop where
  unmarked : n.Unmarked
  development : ∀ d, n.development? = some d → d.move = .passes
  search : n.development? = some .locateAbductee →
    Searched ss (n.objectIn .object) (n.objectIn .object2)
  rules : ∀ rules, n.kind = .hole rules →
    .protagonistAttack ∉ rules ∧ .awkwardCombat ∉ rules ∧
      (.findAbductee ∈ rules → Searched ss (n.objectIn .abductee) (n.objectIn .abducteeLocation))

/-- What is going on between two nodes: the open threads, and the node that began the skirmish. -/
structure Ongoing (w : World) where
  strands : List (Strand w) := []
  fight : Option PlotNode := none

/-- No two threads have the same victim, and someone is left. -/
structure Feasible (ss : List (Strand w)) : Prop where
  apart : ss.Pairwise fun r s => (r.victim == s.victim) = false
  someone : ∃ o ∈ w.protagonists, ∀ s ∈ ss, (o == s.victim) = false

/-- One node leads from what is going on before it to what is going on behind it. -/
inductive Turn : Ongoing w → PlotNode → Ongoing w → Prop
  | opens {ss : List (Strand w)} (s : Strand w) (h : Feasible (s :: ss)) :
      Turn ⟨ss, none⟩ s.opener ⟨s :: ss, none⟩
  | closes {ss rest : List (Strand w)} (s : Strand w) (h : ss.Perm (s :: rest)) :
      Turn ⟨ss, none⟩ s.closer ⟨rest, none⟩
  | meets {ss : List (Strand w)} {n : PlotNode} (h : n.Meets) :
      Turn ⟨ss, none⟩ n ⟨ss, some n⟩
  | fights {ss : List (Strand w)} {m n : PlotNode} (h : m.Fights n) :
      Turn ⟨ss, some m⟩ n ⟨ss, some m⟩
  | parts {ss : List (Strand w)} {m n : PlotNode} (h : m.Parts n) :
      Turn ⟨ss, some m⟩ n ⟨ss, none⟩
  | passes {ss : List (Strand w)} {n : PlotNode} (h : Passes ss n) :
      Turn ⟨ss, none⟩ n ⟨ss, none⟩

/-- Nodes in order, each a step from what the one before it leaves. -/
inductive Run : Ongoing w → List PlotNode → Ongoing w → Prop
  | nil {a : Ongoing w} : Run a [] a
  | cons {a b c : Ongoing w} {n : PlotNode} {ns : List PlotNode} (hn : Turn a n b)
      (hns : Run b ns c) : Run a (n :: ns) c

variable {a b c : Ongoing w} {m n : PlotNode} {ns ms : List PlotNode} {ss rest : List (Strand w)}
  {s : Strand w} {away : Roster}

theorem Run.append (h : Run a ns b) (k : Run b ms c) : Run a (ns ++ ms) c := by
  induction h with
  | nil => exact k
  | cons hn _ ih => exact .cons hn (ih k)

theorem Run.split (h : Run a (ns ++ ms) c) : ∃ b, Run a ns b ∧ Run b ms c := by
  induction ns generalizing a with
  | nil => exact ⟨a, .nil, h⟩
  | cons n ns ih =>
    cases h with
    | cons hn hns =>
      obtain ⟨b, hfront, hrest⟩ := ih hns
      exact ⟨b, .cons hn hfront, hrest⟩

/-- A run through a node comes to it, takes it as a step and goes on. -/
theorem Run.at (h : Run a (ns ++ n :: ms) c) :
    ∃ b b', Run a ns b ∧ Turn b n b' ∧ Run b' ms c := by
  obtain ⟨b, hfront, hrest⟩ := h.split
  cases hrest with
  | cons hn hrest => exact ⟨b, _, hfront, hn, hrest⟩

/-- A thread that is opened, stays open and is closed. -/
theorem Run.thread {t : Thread} {o : Object} {l : List PlotNode} (hp : Pairs w t o n m)
    (hs : Feasible (⟨t, o, n, m, hp⟩ :: ss))
    (hinner : Run ⟨⟨t, o, n, m, hp⟩ :: ss, none⟩ l ⟨⟨t, o, n, m, hp⟩ :: ss, none⟩)
    (hns : Run ⟨ss, none⟩ ns c) : Run ⟨ss, none⟩ (n :: (l ++ m :: ns)) c :=
  .cons (.opens _ hs) (hinner.append (.cons (.closes ⟨t, o, n, m, hp⟩ (.refl _)) hns))

/-! ## What is feasible stays so -/

theorem Feasible.nil (hw : w.protagonists ≠ []) : Feasible ([] : List (Strand w)) := by
  obtain ⟨o, ho⟩ := List.exists_mem_of_ne_nil _ hw
  exact ⟨.nil, o, ho, by simp⟩

theorem Feasible.perm (h : Feasible ss) (hp : ss.Perm rest) : Feasible rest := by
  obtain ⟨o, ho, hothers⟩ := h.someone
  refine ⟨?_, o, ho, fun s hs => hothers s (hp.mem_iff.2 hs)⟩
  exact (hp.pairwise_iff fun hrs => BEq.comm.trans hrs).1 h.apart

theorem Feasible.tail (h : Feasible (s :: ss)) : Feasible ss := by
  obtain ⟨o, ho, hothers⟩ := h.someone
  exact ⟨(List.pairwise_cons.1 h.apart).2, o, ho, fun r hr => hothers r (List.mem_cons_of_mem s hr)⟩

theorem Feasible.head (h : Feasible (s :: ss)) : ∀ r ∈ ss, (s.victim == r.victim) = false :=
  (List.pairwise_cons.1 h.apart).1

theorem Turn.feasible (h : Turn a n b) (ha : Feasible a.strands) : Feasible b.strands := by
  cases h with
  | opens s h => exact h
  | closes s h => exact (ha.perm h).tail
  | meets | fights | parts | passes => exact ha

theorem Run.feasible (h : Run a ns b) (ha : Feasible a.strands) : Feasible b.strands := by
  induction h with
  | nil => exact ha
  | cons hn _ ih => exact ih (hn.feasible ha)

/-! ## Who is away -/

/-- Those who are away are the victims of the open threads. -/
def Tracks (ss : List (Strand w)) (away : Roster) : Prop :=
  ∀ o, away.contains o = ss.any fun s => o == s.victim

theorem Tracks.nil : Tracks ([] : List (Strand w)) {} := fun _ => rfl

theorem Tracks.cons (h : Tracks ss away) (s : Strand w) : Tracks (s :: ss) (away.insert s.victim) := by
  intro o
  rw [Roster.contains_insert, List.any_cons, h o]

theorem Tracks.tail (h : Tracks ss away) (hp : ss.Perm (s :: rest)) (hs : Feasible (s :: rest)) :
    Tracks rest (away.erase s.victim) := by
  intro o
  have hany : (ss.any fun s => o == s.victim) = (o == s.victim || rest.any fun r => o == r.victim) := by
    rw [hp.any_eq, List.any_cons]
  rw [Roster.contains_erase, h o, hany, BEq.comm]
  cases ho : o == s.victim with
  | false => simp
  | true =>
    have hrest : (rest.any fun r => o == r.victim) = false := by
      rw [List.any_eq_false]
      intro r hr
      rw [BEq.congr_left ho, hs.head r hr]
      exact Bool.false_ne_true
    simp [hrest]

theorem Tracks.contains (h : Tracks ss away) (hs : s ∈ ss) : away.contains s.victim = true := by
  rw [h]
  exact List.any_eq_true.2 ⟨s, hs, BEq.rfl⟩

/-- Who is available is decided by the open threads. -/
theorem Tracks.available (h : Tracks ss away) (hs : Feasible ss) :
    availableOf w.protagonists away ≠ [] := by
  obtain ⟨o, ho, hothers⟩ := hs.someone
  have hthere : away.contains o = false := by
    rw [h, List.any_eq_false]
    intro s hs
    rw [hothers s hs]
    exact Bool.false_ne_true
  exact List.ne_nil_of_mem (mem_availableOf.2 ⟨ho, hthere⟩)

theorem Turn.track (h : Turn a n b) (ha : Feasible a.strands) (ht : Tracks a.strands away) :
    ∃ after, n.track away = .ok after ∧ Tracks b.strands after := by
  cases h with
  | opens s h => exact ⟨_, s.pairs.opens.track, ht.cons s⟩
  | closes s h =>
    have hmem : s ∈ _ := h.mem_iff.2 List.mem_cons_self
    exact ⟨_, s.pairs.closes.track (ht.contains hmem), ht.tail h (ha.perm h)⟩
  | meets h => exact ⟨_, h.unmarked.track, ht⟩
  | fights h => exact ⟨_, h.unmarked.track, ht⟩
  | parts h => exact ⟨_, h.unmarked.track, ht⟩
  | passes h => exact ⟨_, h.unmarked.track, ht⟩

/-- A replay of the markers goes along with a run. -/
theorem Run.track (h : Run a ns b) (ha : Feasible a.strands) (ht : Tracks a.strands away) :
    ∃ after, replay ns away = .ok after ∧ Tracks b.strands after := by
  induction h generalizing away with
  | nil => exact ⟨away, rfl, ht⟩
  | cons hn _ ih =>
    obtain ⟨next, hnext, ht⟩ := hn.track ha ht
    obtain ⟨after, hafter, ht⟩ := ih (hn.feasible ha) ht
    exact ⟨after, (replay_cons_ok hnext).trans hafter, ht⟩

/-! ## Which step a node is -/

theorem Passes.of_development {d : Development} (hu : n.Unmarked) (hd : n.development? = some d)
    (hmove : d.move = .passes) (hsearch : d ≠ .locateAbductee) : Passes ss n := by
  obtain ⟨k, attributes, cs⟩ := n
  cases k with
  | sequence | hole => cases hd
  | development e =>
    obtain rfl : e = d := Option.some.inj hd
    refine ⟨hu, ?_, ?_, ?_⟩
    · rintro _ ⟨⟩
      exact hmove
    · rintro ⟨⟩
      exact absurd rfl hsearch
    · rintro rules ⟨⟩

theorem Passes.hole {rules : List Rule} {here : Object} (hattack : .protagonistAttack ∉ rules)
    (hcombat : .awkwardCombat ∉ rules) (hfind : .findAbductee ∉ rules) :
    Passes ss (PlotNode.hole here rules) := by
  refine ⟨⟨rfl, rfl⟩, ?_, ?_, ?_⟩
  · rintro d ⟨⟩
  · rintro ⟨⟩
  · rintro _ ⟨⟩
    exact ⟨hattack, hcombat, fun h => absurd h hfind⟩

theorem Thread.move_opening (t : Thread) : t.opening.move = .opens t := by
  cases t <;> rfl

theorem Thread.move_closing (t : Thread) : t.closing.move = .closes t := by
  cases t <;> rfl

/-- The move that a development makes is the step that its node is. -/
theorem Turn.of_move {d : Development} (h : Turn a n b) (hd : n.development? = some d) :
    match d.move with
    | .opens t => a.fight = none ∧ ∃ s : Strand w, s.thread = t ∧ n = s.opener ∧
        b = ⟨s :: a.strands, none⟩ ∧ Feasible (s :: a.strands)
    | .closes t => a.fight = none ∧ b.fight = none ∧ ∃ s : Strand w, s.thread = t ∧ n = s.closer ∧
        a.strands.Perm (s :: b.strands)
    | .meets => a.fight = none ∧ b = ⟨a.strands, some n⟩ ∧ n.Meets
    | .fights => b = a ∧ ∃ m, a.fight = some m ∧ m.Fights n
    | .parts => b = ⟨a.strands, none⟩ ∧ ∃ m, a.fight = some m ∧ m.Parts n
    | .passes => b = a ∧ a.fight = none ∧ Passes a.strands n := by
  cases h with
  | opens s h =>
    obtain rfl := Option.some.inj (s.pairs.opening.symm.trans hd)
    rw [s.thread.move_opening]
    exact ⟨rfl, s, rfl, rfl, rfl, h⟩
  | closes s h =>
    obtain rfl := Option.some.inj (s.pairs.closing.symm.trans hd)
    rw [s.thread.move_closing]
    exact ⟨rfl, rfl, s, rfl, rfl, h⟩
  | meets h =>
    obtain ⟨e, he, hmove⟩ := h.development
    obtain rfl := Option.some.inj (he.symm.trans hd)
    rw [hmove]
    exact ⟨rfl, rfl, h⟩
  | fights h =>
    rcases h.part with ⟨e, he, hmove, -⟩ | ⟨hkind, -⟩
    · obtain rfl := Option.some.inj (he.symm.trans hd)
      rw [hmove]
      exact ⟨rfl, _, rfl, h⟩
    · rw [Node.development?, hkind] at hd
      cases hd
  | parts h =>
    obtain rfl := Option.some.inj (h.development.symm.trans hd)
    exact ⟨rfl, _, rfl, h⟩
  | passes h =>
    rw [h.development d hd]
    exact ⟨rfl, rfl, h⟩

/-- A hole is a place in a skirmish, or leaves everything as it is. -/
theorem Turn.of_hole {rules : List Rule} (h : Turn a n b) (hkind : n.kind = .hole rules) :
    b = a ∧ ((∃ m, a.fight = some m ∧ m.Fights n) ∨ a.fight = none ∧ Passes a.strands n) := by
  have hnone : n.development? = none := by
    rw [Node.development?, hkind]
  cases h with
  | opens s h => cases hnone.symm.trans s.pairs.opening
  | closes s h => cases hnone.symm.trans s.pairs.closing
  | meets h =>
    obtain ⟨d, hd, -⟩ := h.development
    cases hnone.symm.trans hd
  | fights h => exact ⟨rfl, Or.inl ⟨_, rfl, h⟩⟩
  | parts h => cases hnone.symm.trans h.development
  | passes h => exact ⟨rfl, Or.inr ⟨rfl, h⟩⟩

/-! ## From the opening to the closing -/

/-- A step that leaves a thread open marks somebody else. -/
theorem Turn.not_marks (h : Turn a n b) (ha : Feasible a.strands) (hs : s ∈ a.strands)
    (hs' : s ∈ b.strands) : ¬n.Marks s.victim := by
  have hunmarked : n.Unmarked → ¬n.Marks s.victim := by
    rintro hu ⟨m, hm | hm, -⟩
    · cases hu.1.symm.trans hm
    · cases hu.2.symm.trans hm
  cases h with
  | opens r h =>
    rintro ⟨m, hm | hm, hsame⟩
    · cases r.pairs.opens.1.symm.trans hm
      cases (h.head s hs).symm.trans hsame
    · cases r.pairs.opens.2.symm.trans hm
  | closes r h =>
    rintro ⟨m, hm | hm, hsame⟩
    · cases r.pairs.closes.1.symm.trans hm
    · cases r.pairs.closes.2.symm.trans hm
      cases ((ha.perm h).head s hs').symm.trans hsame
  | meets h => exact hunmarked h.unmarked
  | fights h => exact hunmarked h.unmarked
  | parts h => exact hunmarked h.unmarked
  | passes h => exact hunmarked h.unmarked

/-- A thread that is open at the start of a run and not at its end is closed on the way by its own node, and
nothing before that marks its victim. -/
theorem Run.closed (h : Run a ns c) (ha : Feasible a.strands) (hs : s ∈ a.strands)
    (hc : s ∉ c.strands) :
    ∃ inner rest b, ns = inner ++ s.closer :: rest ∧ (∀ k ∈ inner, ¬k.Marks s.victim) ∧
      Run b rest c ∧ ∀ r ∈ b.strands, (s.victim == r.victim) = false := by
  induction h with
  | nil => exact absurd hs hc
  | @cons a b c n ns hn hns ih =>
    by_cases hopen : s ∈ b.strands
    · obtain ⟨inner, rest, d, rfl, hinner, hrest, hapart⟩ := ih (hn.feasible ha) hopen hc
      refine ⟨n :: inner, rest, d, rfl, ?_, hrest, hapart⟩
      exact List.forall_mem_cons.2 ⟨hn.not_marks ha hs hopen, hinner⟩
    · cases hn with
      | closes r h =>
        have hmem := h.mem_iff.1 hs
        rcases List.mem_cons.1 hmem with rfl | hmem
        · exact ⟨[], ns, _, rfl, by simp, hns, (ha.perm h).head⟩
        · exact absurd hmem hopen
      | opens r h => exact absurd (List.mem_cons_of_mem r hs) hopen
      | meets | fights | parts | passes => exact absurd hs hopen

/-- A thread that is open at the end of a run was open at its start, or its own node opened it on the way;
nothing after that marks its victim. -/
theorem Run.opened (h : Run a ns c) (ha : Feasible a.strands) (hs : s ∈ c.strands) :
    (s ∈ a.strands ∧ ∀ k ∈ ns, ¬k.Marks s.victim) ∨
      ∃ before between, ns = before ++ s.opener :: between ∧
        ∀ k ∈ between, ¬k.Marks s.victim := by
  induction h with
  | nil => exact Or.inl ⟨hs, by simp⟩
  | @cons a b c n ns hn hns ih =>
    rcases ih (hn.feasible ha) hs with ⟨hopen, hrest⟩ | ⟨before, between, rfl, hbetween⟩
    · by_cases hearlier : s ∈ a.strands
      · exact Or.inl ⟨hearlier, List.forall_mem_cons.2 ⟨hn.not_marks ha hearlier hopen, hrest⟩⟩
      · refine Or.inr ⟨[], ns, ?_, hrest⟩
        cases hn with
        | opens r h =>
          rcases List.mem_cons.1 hopen with rfl | hopen
          · rfl
          · exact absurd hopen hearlier
        | closes r h => exact absurd (h.mem_iff.2 (List.mem_cons_of_mem r hopen)) hearlier
        | meets | fights | parts | passes => exact absurd hopen hearlier
    · exact Or.inr ⟨n :: before, between, rfl, hbetween⟩

/-! ## A skirmish from its beginning to its end -/

/-- A skirmish goes on to its end without interruption. -/
theorem Run.parted {c : List (Strand w)} (h : Run ⟨ss, some m⟩ ns ⟨c, none⟩) :
    ∃ inner n rest, ns = inner ++ n :: rest ∧ m.Parts n ∧ ∀ k ∈ inner, m.Fights k := by
  induction ns generalizing ss with
  | nil => cases h
  | cons n ns ih =>
    cases h with
    | cons hn hns =>
      cases hn with
      | fights h =>
        obtain ⟨inner, k, rest, rfl, hk, hinner⟩ := ih hns
        exact ⟨n :: inner, k, rest, rfl, hk, List.forall_mem_cons.2 ⟨h, hinner⟩⟩
      | parts h => exact ⟨[], n, ns, rfl, h, by simp⟩

/-- A skirmish has gone on from its beginning without interruption. -/
theorem Run.met (h : Run a ns c) (hc : c.fight = some m) :
    (a.fight = some m ∧ ∀ k ∈ ns, m.Fights k) ∨
      ∃ before between, ns = before ++ m :: between ∧ m.Meets ∧ ∀ k ∈ between, m.Fights k := by
  induction h with
  | nil => exact Or.inl ⟨hc, by simp⟩
  | @cons a b c n ns hn hns ih =>
    rcases ih hc with ⟨hfight, hrest⟩ | ⟨before, between, rfl, hm, hbetween⟩
    · cases hn with
      | meets h =>
        obtain rfl := Option.some.inj hfight
        exact Or.inr ⟨[], ns, rfl, h, hrest⟩
      | fights h =>
        obtain rfl := Option.some.inj hfight
        exact Or.inl ⟨rfl, List.forall_mem_cons.2 ⟨h, hrest⟩⟩
      | opens | closes | parts | passes => cases hfight
    · exact Or.inr ⟨n :: before, between, rfl, hm, hbetween⟩

end Runs

end SpaceOpera
