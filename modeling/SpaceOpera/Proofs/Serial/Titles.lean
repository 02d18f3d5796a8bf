import Mathlib.Data.List.Nodup
import Mathlib.Data.List.Perm.Subperm
import SpaceOpera.Proofs.Serial.Chapters

/-!
# Titles are never used twice

Titles of a base are tried until one is free.  The numbers at the end never run out, and no two of them make
the same title, so the search ends (`freshTitle_searches`).  A call on a serial puts at most one title in use,
a title that was free, and returns no other (`Serial.call_takes`); along a run of calls, failing ones among
them, no title comes back twice.
-/

namespace SpaceOpera

/-! ## The search for a free title -/

/-- The base with a number behind it. -/
def numberedTitle (base : String) (number : Nat) : String :=
  s!"{base} {number}"

/-- The search goes on until a title is free: `title` is tried now, the fronts are still to be tried, and
`number` is the last number that was tried. -/
inductive Searches (used : List String) (base : String) :
    List String → Nat → String → String → Prop where
  | free {fronts : List String} {number : Nat} {title : String} (h : title ∉ used) :
    Searches used base fronts number title title
  | front {front title result : String} {fronts : List String} {number : Nat} (h : title ∈ used)
    (next : Searches used base fronts number (front ++ base) result) :
    Searches used base (front :: fronts) number title result
  | number {number : Nat} {title result : String} (h : title ∈ used)
    (next : Searches used base [] (number + 1) (numberedTitle base (number + 1)) result) :
    Searches used base [] number title result

/-- What a chapter can be called after its base. -/
inductive TitleOf (base : String) : String → Prop where
  | plain : TitleOf base base
  | sequel {phrase : String} (h : phrase ∈ sequelPhrases) : TitleOf base (phrase ++ base)
  | sequelOfSequel {first second : String} (hfirst : first ∈ sequelPhrases)
    (hsecond : second ∈ sequelPhrases) : TitleOf base (first ++ second ++ base)
  | numbered {number : Nat} (h : 2 ≤ number) : TitleOf base (numberedTitle base number)

section Search

variable {used fronts : List String} {base title result : String} {number count : Nat}

theorem numberedTitle_injective (base : String) : Function.Injective (numberedTitle base) := by
  intro m n h
  have hchars := congrArg String.toList h
  have hdigits : Nat.toDigits 10 m = Nat.toDigits 10 n := by
    simpa [numberedTitle, Nat.toString_eq_repr] using hchars
  simpa using congrArg (fun ds => Nat.ofDigitChars 10 ds 0) hdigits

/-- More numbers than there are titles in use leave a title free. -/
theorem exists_numberedTitle_not_mem (used : List String) (base : String) :
    ∃ k ≤ used.length, numberedTitle base (k + 2) ∉ used := by
  by_contra! h
  let titles := (List.range (used.length + 1)).map fun k => numberedTitle base (k + 2)
  have hnodup : titles.Nodup := by
    refine List.nodup_range.map fun j k hjk => ?_
    exact Nat.add_right_cancel (numberedTitle_injective base hjk)
  have hused : titles ⊆ used := by
    intro t ht
    obtain ⟨k, hk, rfl⟩ := List.mem_map.1 ht
    exact h k (Nat.lt_succ_iff.1 (List.mem_range.1 hk))
  have hlength := (hnodup.subperm hused).length_le
  rw [List.length_map, List.length_range] at hlength
  omega

theorem Searches.not_mem (h : Searches used base fronts number title result) : result ∉ used := by
  induction h with
  | free h => exact h
  | front _ _ ih | number _ _ ih => exact ih

/-- With the fronts used up, the search finds the first number that is free. -/
theorem searches_numbers (h : (title :: (List.range count).map fun k =>
      numberedTitle base (number + 1 + k)).find? (!used.contains ·) = some result) :
    Searches used base [] number title result := by
  induction count generalizing title number with
  | zero =>
    obtain ⟨hfree, rfl⟩ : title ∉ used ∧ title = result := by simpa using h
    exact .free hfree
  | succ count ih =>
    by_cases hused : title ∈ used
    · refine .number hused (ih ?_)
      rw [List.find?_cons_of_neg (by simpa using hused), List.range_succ_eq_map, List.map_cons,
        List.map_map] at h
      simpa only [Function.comp_def, Nat.succ_eq_add_one, Nat.add_zero, Nat.add_assoc,
        Nat.add_comm 1] using h
    · rw [List.find?_cons_of_pos (by simpa using hused)] at h
      exact Option.some.inj h ▸ .free hused

/-- The search finds the first title that is free. -/
theorem searches_fronts (h : (title :: fronts.map (· ++ base) ++ (List.range count).map fun k =>
      numberedTitle base (number + 1 + k)).find? (!used.contains ·) = some result) :
    Searches used base fronts number title result := by
  induction fronts generalizing title with
  | nil => exact searches_numbers h
  | cons front fronts ih =>
    by_cases hused : title ∈ used
    · rw [List.map_cons, List.cons_append, List.find?_cons_of_neg (by simpa using hused)] at h
      exact .front hused (ih h)
    · rw [List.cons_append, List.find?_cons_of_pos (by simpa using hused)] at h
      exact Option.some.inj h ▸ .free hused

theorem titlesOf_eq (base : String) (count : Nat) :
    titlesOf base count = base :: sequelFronts.map (· ++ base)
      ++ (List.range count).map fun k => numberedTitle base (1 + 1 + k) := by
  unfold titlesOf
  refine congrArg _ (List.map_congr_left fun k _ => ?_)
  rw [Nat.add_comm]
  rfl

theorem find?_titlesOf (used : List String) (base : String) :
    (titlesOf base (used.length + 1)).find? (!used.contains ·) = some (freshTitle used base) := by
  obtain ⟨k, hk, hfree⟩ := exists_numberedTitle_not_mem used base
  have hsome : ((titlesOf base (used.length + 1)).find? (!used.contains ·)).isSome := by
    refine List.find?_isSome.2 ⟨numberedTitle base (k + 2), ?_, by simpa using hfree⟩
    refine List.mem_append_right _ (List.mem_map.2 ⟨k, List.mem_range.2 ?_, rfl⟩)
    omega
  obtain ⟨title, htitle⟩ := Option.isSome_iff_exists.1 hsome
  rw [freshTitle, htitle, Option.getD_some]

/-- The search for a title ends. -/
theorem freshTitle_searches (used : List String) (base : String) :
    Searches used base sequelFronts 1 base (freshTitle used base) :=
  searches_fronts (titlesOf_eq base _ ▸ find?_titlesOf used base)

/-- The second sequel. -/
example : freshTitle [fallbackTitle, "The Return of The Destiny of Fate"] fallbackTitle =
    "The Revenge of The Destiny of Fate" := by
  decide +kernel

theorem freshTitle_not_mem (used : List String) (base : String) : freshTitle used base ∉ used :=
  (freshTitle_searches used base).not_mem

theorem freshTitle_titleOf (used : List String) (base : String) :
    TitleOf base (freshTitle used base) := by
  have hmem := List.mem_of_find?_eq_some (find?_titlesOf used base)
  rw [titlesOf, List.cons_append, List.mem_cons, List.mem_append] at hmem
  generalize freshTitle used base = title at hmem
  obtain rfl | hmapped | hnumber := hmem
  · exact .plain
  · obtain ⟨front, hfront, rfl⟩ := List.mem_map.1 hmapped
    obtain hone | htwo := List.mem_append.1 hfront
    · exact .sequel hone
    · obtain ⟨first, hfirst, hpair⟩ := List.mem_flatMap.1 htwo
      obtain ⟨second, hsecond, rfl⟩ := List.mem_map.1 hpair
      exact .sequelOfSequel hfirst hsecond
  · obtain ⟨k, -, rfl⟩ := List.mem_map.1 hnumber
    exact .numbered (Nat.le_add_left 2 k)

end Search

/-! ## Bases -/

/-- What a title for the plot comes from: someone or something that the plot can be named after, or the
fallback where there is nobody and nothing. -/
def BaseOf (plot : PlotNode) (base : String) : Prop :=
  if (titleCandidates plot).members = [] then base = fallbackTitle
  else ∃ o ∈ (titleCandidates plot).members, base = Text.capitalize o.definite

theorem rollBase_yields (plot : PlotNode) : Yields (fun _ => True) (BaseOf plot) (rollBase plot) := by
  unfold rollBase
  refine (Roll.choose_yields _).bind fun name hname => Yields.pure ?_
  unfold BaseOf
  simp only [List.map_eq_nil_iff] at hname
  split at hname
  · rw [if_pos ‹_›, hname]
    rfl
  · obtain ⟨definite, hdefinite, rfl⟩ := hname
    obtain ⟨o, ho, rfl⟩ := List.mem_map.1 hdefinite
    rw [if_neg ‹_›]
    exact ⟨o, ho, rfl⟩

/-! ## Titles along a run -/

/-- A call on a serial that returns a title: for the next chapter, or for a plot alone. -/
inductive TitleCall where
  | chapter
  | pick (plot : PlotNode)

namespace Serial

/-- Answers a call. -/
def call (s : Serial) : TitleCall → Step String
  | .chapter => Chapter.title <$> s.writeChapter
  | .pick plot => takeTitle plot

/-- Answers one call after the other, whether they fail or not. -/
def calls (s : Serial) (cs : List TitleCall) : StateM Progress (List (Except SerialError String)) :=
  cs.mapM fun c => (s.call c).run

/-- The titles among the answers. -/
def returned (answers : List (Except SerialError String)) : List String :=
  answers.filterMap Except.toOption

section Steps

variable {α β : Type} {t : Step α} {f : α → Step β} {title : α → String} {title' : β → String}

/-- The computation puts no title in use. -/
def KeepsTitles (t : Step α) : Prop :=
  ∀ p, (t.run.run p).2.usedTitles = p.usedTitles

/-- With `used` in use before and `after` behind: at most one title was put in use, one that was free. -/
def AtMostOneMore (used after : List String) : Prop :=
  after = used ∨ ∃ t, t ∉ used ∧ after = t :: used

/-- The computation puts at most one title in use, a free one, and returns no other. -/
def TakesTitle (title : α → String) (t : Step α) : Prop :=
  ∀ p, Outcome (fun _ => AtMostOneMore p.usedTitles (t.run.run p).2.usedTitles)
    (fun a => title a ∉ p.usedTitles ∧ (t.run.run p).2.usedTitles = title a :: p.usedTitles)
    (t.run.run p).1

theorem KeepsTitles.pure (a : α) : KeepsTitles (Pure.pure a) := fun _ => rfl

theorem KeepsTitles.telling {ε : Type} (wrap : ε → SerialError) (t : Telling ε α) :
    KeepsTitles (t.asStep wrap) := fun _ => rfl

theorem KeepsTitles.attempt {ε : Type} (wrap : ε → SerialError) (t : Attempt ε α) :
    KeepsTitles (t.asStep wrap) := fun _ => rfl

theorem editStory_keepsTitles (story : StoryNode) : KeepsTitles (editStory story) := fun _ => rfl

theorem KeepsTitles.bind (h : KeepsTitles t) (hf : ∀ a, KeepsTitles (f a)) :
    KeepsTitles (t >>= f) := by
  intro p
  have hp := h p
  rw [ExceptT.run_bind, StateT.run_bind]
  generalize t.run.run p = result at hp ⊢
  obtain ⟨e | a, p'⟩ := result
  · exact hp
  · exact (hf a p').trans hp

/-- What comes before a title is taken puts none in use. -/
theorem KeepsTitles.bind_takes (h : KeepsTitles t) (hf : ∀ a, TakesTitle title' (f a)) :
    TakesTitle title' (t >>= f) := by
  intro p
  have hp := h p
  rw [ExceptT.run_bind, StateT.run_bind]
  generalize t.run.run p = result at hp ⊢
  obtain ⟨e | a, p'⟩ := result
  · exact Or.inl hp
  · exact (show p'.usedTitles = p.usedTitles from hp) ▸ hf a p'

/-- What comes behind leaves the title in use, and passes it on or fails. -/
theorem TakesTitle.bind_keeps (h : TakesTitle title t) (hf : ∀ a, KeepsTitles (f a))
    (htitle : ∀ a, Ends (fun _ => True) (fun _ => True) (fun b => title' b = title a) (f a)) :
    TakesTitle title' (t >>= f) := by
  intro p
  have hp := h p
  rw [ExceptT.run_bind, StateT.run_bind]
  generalize t.run.run p = result at hp ⊢
  obtain ⟨e | a, p'⟩ := result
  · exact hp
  · obtain ⟨hfree, hused⟩ : title a ∉ p.usedTitles ∧ p'.usedTitles = title a :: p.usedTitles := hp
    have hkeeps := (hf a p').trans hused
    have hpasses := (htitle a p' trivial).1
    change Outcome _ _ ((f a).run.run p').1
    change Outcome _ _ ((f a).run.run p').1 at hpasses
    cases hresult : ((f a).run.run p').1 with
    | error e => exact Or.inr ⟨title a, hfree, hkeeps⟩
    | ok b =>
      rw [hresult] at hpasses
      have hb : title' b = title a := hpasses
      exact ⟨hb ▸ hfree, hb ▸ hkeeps⟩

theorem takeTitle_takes (plot : PlotNode) : TakesTitle id (takeTitle plot) :=
  fun p => ⟨freshTitle_not_mem p.usedTitles _, rfl⟩

theorem writeSynopsis_takes (plot : PlotNode) : TakesTitle Chapter.title (writeSynopsis plot) :=
  (KeepsTitles.attempt _ _).bind_takes fun _ =>
    (takeTitle_takes plot).bind_keeps (fun _ => .pure _) fun _ => Ends.pure rfl

theorem writeProse_keeps (title : String) (plot : PlotNode) (story : StoryNode) :
    KeepsTitles (writeProse title plot story) :=
  (KeepsTitles.attempt _ _).bind fun _ => (KeepsTitles.telling _ _).bind fun _ => .pure _

theorem writeStory_takes (s : Serial) (plot : PlotNode) :
    TakesTitle Chapter.title (s.writeStory plot) := by
  unfold writeStory
  refine (KeepsTitles.attempt _ _).bind_takes fun story => ?_
  refine (editStory_keepsTitles story).bind_takes fun story => ?_
  refine (takeTitle_takes plot).bind_keeps (fun title => ?_) fun title => ?_
  · split
    · exact .pure _
    · exact writeProse_keeps title plot story
  · split
    · exact Ends.pure rfl
    · exact (writeProse_inProse title plot story).imp (fun _ h => h) fun _ h => h.title_eq

theorem writeChapter_takes (s : Serial) : TakesTitle Chapter.title s.writeChapter := by
  unfold writeChapter
  refine (KeepsTitles.telling _ _).bind_takes fun plot => ?_
  split
  · exact writeSynopsis_takes plot
  · exact s.writeStory_takes plot

/-- A call puts at most one title in use, a free one, and returns no other. -/
theorem call_takes (s : Serial) (c : TitleCall) : TakesTitle id (s.call c) := by
  cases c with
  | pick plot => exact takeTitle_takes plot
  | chapter =>
    change TakesTitle id (s.writeChapter >>= fun c => Pure.pure c.title)
    exact s.writeChapter_takes.bind_keeps (fun _ => .pure _) fun _ => Ends.pure rfl

/-- Along a run, each title that comes back is new to the titles in use and to the titles before it. -/
theorem calls_returned (s : Serial) (cs : List TitleCall) (p : Progress) :
    (returned ((s.calls cs).run p).1).Nodup ∧
      ∀ t ∈ returned ((s.calls cs).run p).1, t ∉ p.usedTitles := by
  induction cs generalizing p with
  | nil => exact ⟨List.nodup_nil, fun _ h => absurd h List.not_mem_nil⟩
  | cons c cs ih =>
    have hcall := s.call_takes c p
    have hrun : ((s.calls (c :: cs)).run p).1 =
        ((s.call c).run.run p).1 :: ((s.calls cs).run ((s.call c).run.run p).2).1 := by
      unfold calls
      rw [List.mapM_cons]
      rfl
    rw [hrun]
    generalize (s.call c).run.run p = answer at hcall
    obtain ⟨e | t, p'⟩ := answer
    · obtain ⟨hnodup, hnew⟩ := ih p'
      refine ⟨hnodup, fun t ht hused => hnew t ht ?_⟩
      obtain hsame | ⟨wasted, -, hmore⟩ : AtMostOneMore p.usedTitles p'.usedTitles := hcall
      · exact hsame ▸ hused
      · exact hmore ▸ List.mem_cons_of_mem wasted hused
    · obtain ⟨hnodup, hnew⟩ := ih p'
      obtain ⟨hfree, hmore⟩ : t ∉ p.usedTitles ∧ p'.usedTitles = t :: p.usedTitles := hcall
      rw [hmore] at hnew
      refine ⟨List.nodup_cons.2 ⟨fun ht => hnew t ht List.mem_cons_self, hnodup⟩, ?_⟩
      refine List.forall_mem_cons.2 ⟨hfree, fun u hu hused => ?_⟩
      exact hnew u hu (List.mem_cons_of_mem t hused)

end Steps

/-- A plot gets a title that is not in use: the search for it ends, it comes from the base that was drawn, and
it alone is put in use.  So in any run of calls, failing ones among them, the titles that come back are
pairwise different. -/
theorem takeTitle_unused (s : Serial) :
    (∀ (plot : PlotNode) (p : Progress), ∃ base title narration,
      (rollBase plot).narrate.run p.narration = (base, narration) ∧ BaseOf plot base ∧
        Searches p.usedTitles base sequelFronts 1 base title ∧
        title ∉ p.usedTitles ∧ TitleOf base title ∧
        (takeTitle plot).run.run p =
          (.ok title, { p with narration, usedTitles := title :: p.usedTitles })) ∧
      ∀ (cs : List TitleCall) (p : Progress),
        (returned ((s.calls cs).run p).1).Nodup ∧
          ∀ t ∈ returned ((s.calls cs).run p).1, t ∉ p.usedTitles := by
  refine ⟨fun plot p => ⟨_, freshTitle p.usedTitles _, _, rfl, ?_, ?_, ?_, ?_, rfl⟩, s.calls_returned⟩
  · exact (rollBase_yields plot p.narration.context trivial).1
  · exact freshTitle_searches p.usedTitles _
  · exact freshTitle_not_mem p.usedTitles _
  · exact freshTitle_titleOf p.usedTitles _

end Serial

end SpaceOpera
