import SpaceOpera.Proofs.Success
import SpaceOpera.Proofs.Template.Guises
import SpaceOpera.Story.Kind

/-!
# The roles of slots

A template whose roles have been checked can still fail to be filled in: a role is not set, or the path of
a slot comes to something that is not there.  Filling it in goes along one path through it, with one
option of each choice (`visited`), while the check looks at every option.  So no slot on the way starts at
a role that is not declared, and where a role is not set it is that of the slot that the path ends with
(`render_declared`).
-/

namespace SpaceOpera.Template

/-! ## Trails -/

section Trails

variable {σ ε α β γ : Type} {f : α → ExceptT ε (StateM σ) β} {seen : α → σ → List γ} {a : α}
  {as : List α} {s : σ}

/-- What is seen while doing the same for each element of a list, from a state on and up to a failure. -/
def trail (f : α → ExceptT ε (StateM σ) β) (seen : α → σ → List γ) : List α → σ → List γ
  | [], _ => []
  | a :: as, s =>
    seen a s ++
      match (f a).run.run s with
      | (.ok _, s') => trail f seen as s'
      | (.error _, _) => []

theorem trail_cons_ok {b : β} {s' : σ} (h : (f a).run.run s = (.ok b, s')) :
    trail f seen (a :: as) s = seen a s ++ trail f seen as s' := by
  simp [trail, h]

theorem trail_cons_error {e : ε} {s' : σ} (h : (f a).run.run s = (.error e, s')) :
    trail f seen (a :: as) s = seen a s := by
  simp [trail, h]

/-- A failure comes from the element that the trail ends with. -/
theorem getLast?_trail {e : ε} {s' : σ} {P : γ → Prop}
    (hseen : ∀ a ∈ as, ∀ s s', (f a).run.run s = (.error e, s') →
      ∃ c, (seen a s).getLast? = some c ∧ P c)
    (h : (as.mapM f).run.run s = (.error e, s')) :
    ∃ c, (trail f seen as s).getLast? = some c ∧ P c := by
  induction as generalizing s with
  | nil => cases h
  | cons a as ih =>
    obtain ⟨hhead, hrest⟩ := List.forall_mem_cons.1 hseen
    rw [List.mapM_cons] at h
    rcases run_bind_eq_error.1 h with hfails | ⟨b, s₁, hruns, h⟩
    · rw [trail_cons_error hfails]
      exact hhead s s' hfails
    · rw [trail_cons_ok hruns]
      rcases run_bind_eq_error.1 h with hfails | ⟨_, _, -, hdone⟩
      · obtain ⟨c, hc, hp⟩ := ih hrest hfails
        refine ⟨c, ?_, hp⟩
        rw [List.getLast?_append, hc]
        rfl
      · cases hdone

/-- What is seen is the front of `l`, and all of it if there is no failure. -/
structure Follows (seen l : List γ) (result : Except ε β) : Prop where
  front : seen <+: l
  whole : ∀ b, result = .ok b → seen = l

/-- Where what is seen at each element follows one of the lists it may follow, the trail follows them. -/
theorem trail_follows {B : α → List γ → Prop}
    (hseen : ∀ a ∈ as, ∀ s, ∃ l, B a l ∧ Follows (seen a s) l ((f a).run.run s).1) (s : σ) :
    ∃ ls, List.Forall₂ B as ls ∧ Follows (trail f seen as s) ls.flatten ((as.mapM f).run.run s).1 := by
  induction as generalizing s with
  | nil => exact ⟨[], .nil, List.prefix_refl _, fun _ _ => rfl⟩
  | cons a as ih =>
    obtain ⟨hhead, hrest⟩ := List.forall_mem_cons.1 hseen
    obtain ⟨l, hl, hfollows⟩ := hhead s
    cases hrun : (f a).run.run s with
    | mk result s₁ =>
      obtain ⟨ls, hls, hfollowed⟩ := ih hrest s₁
      refine ⟨l :: ls, .cons hl hls, ?_⟩
      rw [hrun] at hfollows
      rw [List.mapM_cons, List.flatten_cons]
      cases result with
      | error e =>
        rw [trail_cons_error hrun, run_bind_error hrun]
        exact ⟨hfollows.front.trans (List.prefix_append l _), nofun⟩
      | ok b =>
        rw [trail_cons_ok hrun, run_bind_ok hrun, hfollows.whole b rfl]
        refine ⟨(List.prefix_append_right_inj l).2 hfollowed.front, fun bs hbs => ?_⟩
        obtain ⟨bs', s₂, hbs', -⟩ := exists_of_bind_ok hbs
        rw [hfollowed.whole bs' (congrArg Prod.fst hbs')]

end Trails

/-! ## Paths -/

/-- The pieces that a segment can come to: of a choice, those of one option. -/
def Segment.branches : Segment → List (List Piece)
  | piece p => [[p]]
  | choice [] => [[]]
  | choice options => options

/-- The pieces of a way through the template, with one option of each choice. -/
def Path (t : Template) (ps : List Piece) : Prop :=
  ∃ branches, List.Forall₂ (fun s b => b ∈ Segment.branches s) t branches ∧ ps = branches.flatten

section Visits

variable {κ : Type} [NodeKind κ]

/-- The pieces that filling a segment in from the context comes to, up to one that fails. -/
def Segment.visited (n : Node κ) : Segment → Context → List Piece
  | piece p, _ => [p]
  | choice [], _ => []
  | choice options, c =>
    let (i, c) := (Roll.below .wide options.length).run c
    trail (Piece.render n) (fun p _ => [p]) (options.getD i []) c

/-- The pieces that filling the template in from the context comes to, up to one that fails. -/
def visited (t : Template) (n : Node κ) (c : Context) : List Piece :=
  trail (Segment.render n) (Segment.visited n) t c

end Visits

section Roles

variable {κ : Type} [NodeKind κ] {k : κ} {t : Template} {n : Node κ} {s : Segment} {p : Piece}
  {ps : List Piece} {r : Role} {c c' : Context} {e : SlotError}

theorem checkRoles_eq_ok_iff :
    t.checkRoles k = .ok () ↔ ∀ r ∈ t.roles, r ∈ NodeKind.roles k := by
  unfold checkRoles
  cases hfound : t.roles.find? fun r => !(NodeKind.roles k).contains r with
  | none => simpa using hfound
  | some r =>
    have hr : r ∈ t.roles := List.mem_of_find?_eq_some hfound
    have hundeclared : r ∉ NodeKind.roles k := by simpa using List.find?_some hfound
    exact iff_of_false nofun fun h => hundeclared (h r hr)

theorem roles_of_branch {b : List Piece} (hb : b ∈ s.branches) (hp : p ∈ b) : p.roles ⊆ s.roles := by
  cases s with
  | piece q =>
    rw [Segment.branches, List.mem_singleton] at hb
    subst hb
    rw [List.mem_singleton.1 hp]
    exact List.Subset.refl _
  | choice options =>
    intro r hr
    have hoption : b ∈ options := by
      cases options with
      | nil =>
        rw [Segment.branches, List.mem_singleton] at hb
        subst hb
        cases hp
      | cons option options => exact hb
    exact List.mem_flatMap.2 ⟨b, hoption, List.mem_flatMap.2 ⟨p, hp, hr⟩⟩

/-- The slots of a path start at roles of the template. -/
theorem Path.roles (h : t.Path ps) (hp : p ∈ ps) : p.roles ⊆ t.roles := by
  obtain ⟨branches, hbranches, rfl⟩ := h
  obtain ⟨b, hb, hp⟩ := List.mem_flatten.1 hp
  obtain ⟨s, hs, hbranch⟩ := exists_of_mem_right hbranches hb
  intro r hr
  exact List.mem_flatMap.2 ⟨s, hs, roles_of_branch hbranch hp hr⟩

theorem renderPieces_follows (n : Node κ) (ps : List Piece) (c : Context) :
    Follows (trail (Piece.render n) (fun p _ => [p]) ps c) ps ((renderPieces n ps).run.run c).1 := by
  have hpiece : ∀ p ∈ ps, ∀ c, ∃ l, l = [p] ∧ Follows [p] l ((p.render n).run.run c).1 :=
    fun p _ c => ⟨[p], rfl, List.prefix_refl _, fun _ _ => rfl⟩
  obtain ⟨ls, hls, hfollows⟩ := trail_follows hpiece c
  have hflat : ls.flatten = ps := by
    have hmap : ls = ps.map fun p => [p] := by
      simpa using map_eq_of_forall₂ (f := fun p => [p]) (g := id) hls fun _ _ h => h
    rw [hmap, ← List.flatMap_def, List.flatMap_singleton']
  rw [hflat] at hfollows
  refine ⟨hfollows.front, fun text htext => ?_⟩
  obtain ⟨texts, c', htexts, -⟩ := exists_of_bind_ok htext
  exact hfollows.whole texts (congrArg Prod.fst htexts)

/-- Filling a choice in is drawing one of its options and filling that in. -/
theorem run_render_choice (n : Node κ) (option : List Piece) (options : List (List Piece))
    (c : Context) : ((Segment.choice (option :: options)).render n).run.run c =
      let drawn := (Roll.below .wide (option :: options).length).run c
      (renderPieces n ((option :: options).getD drawn.1 [])).run.run drawn.2 := rfl

theorem visited_choice (n : Node κ) (option : List Piece) (options : List (List Piece))
    (c : Context) : (Segment.choice (option :: options)).visited n c =
      let drawn := (Roll.below .wide (option :: options).length).run c
      trail (Piece.render n) (fun p _ => [p]) ((option :: options).getD drawn.1 []) drawn.2 := rfl

/-- What filling a segment in comes to follows one of its branches. -/
theorem Segment.visited_follows (s : Segment) (n : Node κ) (c : Context) :
    ∃ b, b ∈ s.branches ∧ Follows (s.visited n c) b ((s.render n).run.run c).1 := by
  cases s with
  | piece p => exact ⟨[p], List.mem_singleton.2 rfl, List.prefix_refl _, fun _ _ => rfl⟩
  | choice options =>
    cases options with
    | nil => exact ⟨[], List.mem_singleton.2 rfl, List.prefix_refl _, fun _ _ => rfl⟩
    | cons option options =>
      rw [run_render_choice, visited_choice]
      refine ⟨_, ?_, renderPieces_follows n _ _⟩
      have hi : ((Roll.below .wide (option :: options).length).run c).1 <
          (option :: options).length :=
        (Roll.below_yields (I := fun _ => True) .wide (by simp) c trivial).1
      rw [List.getD_eq_getElem?_getD, List.getElem?_eq_getElem hi]
      exact List.getElem_mem hi

/-- Filling a template in goes along a path through it. -/
theorem visited_path (t : Template) (n : Node κ) (c : Context) :
    ∃ ps, t.Path ps ∧ t.visited n c <+: ps := by
  obtain ⟨branches, hbranches, hfollows⟩ :=
    trail_follows (fun s (_ : s ∈ t) c => Segment.visited_follows s n c) c
  exact ⟨_, ⟨branches, hbranches, rfl⟩, hfollows.front⟩

/-! ## Failures of properties -/

/-- The failure is neither that the role is not declared nor that it is not set. -/
def SlotError.OfPath : SlotError → Prop
  | undeclared _ => False
  | unset _ => False
  | unavailable _ _ | missing _ _ | noMood _ | notText _ => True

/-- The computation fails, if at all, on the path of a slot. -/
abbrev FailsOnPath {α : Type} (x : Attempt SlotError α) : Prop :=
  Ends (fun _ => True) SlotError.OfPath (fun _ => True) x

section Properties

variable {o : Object} {q : Property}

theorem rolled_onPath (roll : Roll String) : FailsOnPath (rolled roll) :=
  (rolled_ends (Yields.anything roll)).imp (fun _ h => h) fun _ _ => trivial

theorem linked_onPath (link : Option Object) : FailsOnPath (liftM (linked q o link)) := by
  cases link with
  | none => exact Ends.throw trivial
  | some _ => exact Ends.pure trivial

theorem rolledObject_onPath (roll : Roll (Option Object)) : FailsOnPath (rolledObject q o roll) :=
  (Ends.drawn (Yields.anything roll)).bind fun link _ => linked_onPath link

theorem characterProperty_onPath {f : Character → Attempt SlotError Term}
    (hf : ∀ c, FailsOnPath (f c)) : FailsOnPath (characterProperty o q f) := by
  unfold characterProperty
  split
  · exact hf _
  · exact Ends.throw trivial

theorem placeProperty_onPath {f : Place Object → Attempt SlotError Term}
    (hf : ∀ place, FailsOnPath (f place)) : FailsOnPath (placeProperty o q f) := by
  unfold placeProperty
  split
  · exact hf _
  · exact Ends.throw trivial

theorem objectProperty_onPath (o : Object) (q : Property) : FailsOnPath (objectProperty o q) := by
  cases q
  case colour | gibberish => exact rolled_onPath _
  case rank | nextRank =>
    simp only [objectProperty]
    split
    · exact Ends.pure trivial
    · exact Ends.throw trivial
  case home | weapon => exact linked_onPath _
  case wearing | yet | motion | simile | withVoice =>
    exact characterProperty_onPath fun _ => rolled_onPath _
  case stature | hairLength | hairColour | eyeColour | featureAdj | feature | warCry =>
    exact characterProperty_onPath fun _ => Ends.pure trivial
  case light | preposition | roof => exact placeProperty_onPath fun _ => Ends.pure trivial
  case nearby | nearbyScenery | nearbyTakeable =>
    exact placeProperty_onPath fun _ => rolledObject_onPath _
  case adverb | said | shouted | emoted | pickDuty | location | torsoCostume | legsCostume
    | feetCostume => exact Ends.throw trivial
  all_goals exact Ends.pure trivial

theorem moodProperty_onPath (s : State) (table : Diction → List String) :
    FailsOnPath (moodProperty s table) := by
  refine (Ends.drawn (Yields.anything (s.moodWord table))).bind fun word _ => ?_
  cases word with
  | none => exact Ends.throw trivial
  | some _ => exact Ends.pure trivial

theorem stateProperty_onPath (s : State) (q : Property) : FailsOnPath (stateProperty s q) := by
  cases q
  case definite | indefinite | pronoun | accusative | possessive => exact rolled_onPath _
  case adverb | said | shouted | emoted => exact moodProperty_onPath s _
  case pickDuty => exact (Ends.drawn (Yields.anything s.pickDuty)).bind fun _ _ => Ends.pure trivial
  case location | torsoCostume | legsCostume | feetCostume => exact linked_onPath _
  all_goals exact objectProperty_onPath s.object _

theorem groupProperty_onPath (g : Group) (q : Property) :
    FailsOnPath (liftM (groupProperty g q)) := by
  unfold groupProperty
  split
  all_goals first
    | exact Ends.pure trivial
    | exact Ends.throw trivial

theorem property_onPath (t : Term) (q : Property) : FailsOnPath (t.property q) := by
  cases t with
  | object o => exact objectProperty_onPath o q
  | state s => exact stateProperty_onPath s q
  | group g => exact groupProperty_onPath g q
  | text _ => exact Ends.throw trivial

theorem path_onPath (t : Term) (path : List Property) :
    FailsOnPath (path.foldlM Term.property t) := by
  induction path generalizing t with
  | nil => exact Ends.pure trivial
  | cons q path ih =>
    rw [List.foldlM_cons]
    exact (property_onPath t q).bind fun t' _ => ih t'

theorem toText_onPath (t : Term) : FailsOnPath (liftM t.toText) := by
  cases t with
  | text _ => exact Ends.pure trivial
  | object _ | state _ | group _ => exact Ends.throw trivial

end Properties

/-! ## Failures -/

/-- Filling the piece in from some context fails for the reason. -/
def Fails (n : Node κ) (e : SlotError) (p : Piece) : Prop :=
  ∃ c c', (p.render n).run.run c = (.error e, c')

theorem getLast?_pieces (h : (renderPieces n ps).run.run c = (.error e, c')) :
    ∃ p, (trail (Piece.render n) (fun p _ => [p]) ps c).getLast? = some p ∧ Fails n e p := by
  rcases run_bind_eq_error.1 h with hfails | ⟨_, _, -, hdone⟩
  · exact getLast?_trail (fun p _ c c' hp => ⟨p, rfl, c, c', hp⟩) hfails
  · cases hdone

theorem Segment.getLast?_visited (h : (s.render n).run.run c = (.error e, c')) :
    ∃ p, (s.visited n c).getLast? = some p ∧ Fails n e p := by
  cases s with
  | piece p => exact ⟨p, rfl, c, c', h⟩
  | choice options =>
    cases options with
    | nil => cases h
    | cons option options =>
      rw [run_render_choice] at h
      rw [visited_choice]
      exact getLast?_pieces h

/-- A template fails at the piece that is visited last. -/
theorem getLast?_visited (h : (t.render n).run.run c = (.error e, c')) :
    ∃ p, (t.visited n c).getLast? = some p ∧ Fails n e p := by
  rcases run_bind_eq_error.1 h with hfails | ⟨_, _, -, hdone⟩
  · exact getLast?_trail (fun s _ c c' hs => Segment.getLast?_visited hs) hfails
  · cases hdone

/-- A piece fails as a slot: its role is not declared, or not set, or its path leads nowhere. -/
theorem Fails.cases (h : Fails n e p) : ∃ r path, p = .slot r path ∧
    ((n.declares r = false ∧ e = .undeclared (n.undeclared r)) ∨
      (n.get? r = none ∧ e = .unset r) ∨ e.OfPath) := by
  obtain ⟨c, c', h⟩ := h
  cases p with
  | literal text => cases h
  | slot r path =>
    refine ⟨r, path, rfl, ?_⟩
    by_cases hdeclared : n.declares r = true
    · right
      cases hvalue : n.get? r with
      | none =>
        left
        simp only [Piece.render, renderSlot, Node.lookup, hdeclared, hvalue, ↓reduceIte] at h
        cases h
        exact ⟨rfl, rfl⟩
      | some v =>
        right
        simp only [Piece.render, renderSlot, Node.lookup, hdeclared, hvalue, ↓reduceIte] at h
        have hends : FailsOnPath (path.foldlM Term.property (Term.ofValue v) >>= fun t =>
            (liftM t.toText : Attempt SlotError String)) :=
          (path_onPath _ path).bind fun t _ => toText_onPath t
        have houtcome := (hends c trivial).1
        rw [h] at houtcome
        exact houtcome
    · left
      simp only [Piece.render, renderSlot, Node.lookup, hdeclared] at h
      cases h
      exact ⟨by simpa using hdeclared, rfl⟩

/-- If a template is checked against the kind of a node, no slot fails because the node does not declare
its role.  If one fails because its role is not set, it is the last on the path that is taken, and the
node declares the role but does not set it. -/
theorem render_declared (t : Template) (n : Node κ) (c : Context) (h : t.checkRoles n.kind = .ok ()) :
    (∀ e, ((t.render n).run.run c).1 ≠ .error (.undeclared e)) ∧
    (∀ r, ((t.render n).run.run c).1 = .error (.unset r) →
      r ∈ NodeKind.roles n.kind ∧ n.get? r = none ∧
        ∃ path, (t.visited n c).getLast? = some (.slot r path)) ∧
    ∃ ps, t.Path ps ∧ t.visited n c <+: ps := by
  obtain ⟨ps, hpath, hfront⟩ := visited_path t n c
  -- Whatever the reason, it is a slot on the path that fails, and its role has been checked.
  have hfails : ∀ e, ((t.render n).run.run c).1 = .error e →
      ∃ r path, (t.visited n c).getLast? = some (.slot r path) ∧ r ∈ NodeKind.roles n.kind ∧
        ((n.get? r = none ∧ e = .unset r) ∨ e.OfPath) := by
    intro e he
    obtain ⟨p, hlast, hp⟩ := getLast?_visited (Prod.ext he rfl)
    obtain ⟨r, path, rfl, hreason⟩ := hp.cases
    have hmem : Piece.slot r path ∈ ps := hfront.subset (List.mem_of_getLast? hlast)
    have hrole : r ∈ NodeKind.roles n.kind :=
      checkRoles_eq_ok_iff.1 h r (hpath.roles hmem List.mem_cons_self)
    refine ⟨r, path, hlast, hrole, ?_⟩
    rcases hreason with ⟨hundeclared, -⟩ | hreason
    · have hdeclared : n.declares r = true := by simpa [Node.declares] using hrole
      rw [hdeclared] at hundeclared
      cases hundeclared
    · exact hreason
  refine ⟨?_, ?_, ps, hpath, hfront⟩
  · intro e he
    obtain ⟨r, path, -, -, hreason⟩ := hfails _ he
    rcases hreason with ⟨-, hunset⟩ | honPath
    · cases hunset
    · exact honPath
  · intro r he
    obtain ⟨r', path, hlast, hrole, hreason⟩ := hfails _ he
    rcases hreason with ⟨hnone, hunset⟩ | honPath
    · cases hunset
      exact ⟨hrole, hnone, path, hlast⟩
    · exact honPath.elim

end Roles

/-- Two ways to tell of an event, of which only the second speaks of an object. -/
def handful : Template :=
  [.choice [[.slot .subject [.definite]],
      [.slot .subject [.definite], .literal [' ', 'o', 'r', ' '], .slot .object [.definite]]],
    .piece (.literal ['!'])]

/-- A rock is picked up, and nothing else. -/
def pebble : StoryNode :=
  (StoryNode.ofEvent .pickUp).set .subject (.object (.thing ["rock"]))

/-- With the first draw of the one stream there is no object to speak of, with that of the other there is
no need. -/
theorem render_declared_pebble :
    parse "<\x7bsubj.def\x7d|\x7bsubj.def\x7d or \x7bobj.def\x7d>!" = .ok handful ∧
    handful.checkRoles pebble.kind = .ok () ∧
    ((handful.render pebble).run.run (.ofSeed 2)).1 = .ok "the rock!" ∧
    ((handful.render pebble).run.run (.ofSeed 0)).1 = .error (.unset .object) ∧
    .object ∈ NodeKind.roles pebble.kind ∧ pebble.get? .object = none ∧
    ∃ path, (handful.visited pebble (.ofSeed 0)).getLast? = some (.slot .object path) := by
  have hread : parse "<\x7bsubj.def\x7d|\x7bsubj.def\x7d or \x7bobj.def\x7d>!" = .ok handful := by
    decide +kernel
  have hchecked : handful.checkRoles pebble.kind = .ok () := by decide
  have hfilled : ((handful.render pebble).run.run (.ofSeed 2)).1 = .ok "the rock!" := by decide +kernel
  have hfails : ((handful.render pebble).run.run (.ofSeed 0)).1 = .error (.unset .object) := by
    decide +kernel
  obtain ⟨-, hunset, -⟩ := render_declared handful pebble (.ofSeed 0) hchecked
  exact ⟨hread, hchecked, hfilled, hfails, hunset .object hfails⟩

end SpaceOpera.Template
