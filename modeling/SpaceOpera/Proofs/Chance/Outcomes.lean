import Mathlib.Data.List.Forall2
import SpaceOpera.Telling

/-!
# Outcomes of computations that draw

What holds of the result of a computation whatever the stream says.  `Yields I P r` reads: from every state
with `I`, the result of `r` satisfies `P` and the state it leaves has `I` again.  `Ends` says the same of a
computation that can fail, with a condition on the reasons, and `Finds` of one that may come to nothing.
There is one lemma for each way of putting computations together and one for each way of drawing; what a
longer computation comes to follows its `do` block, with the stream never in sight.
-/

namespace SpaceOpera

variable {σ α β ε ε' : Type} {I : σ → Prop}

/-! ## Computations that always come to something -/

section Yields

/-- From every state with `I`, the result satisfies `P` and the state left behind has `I`. -/
def Yields (I : σ → Prop) (P : α → Prop) (r : StateM σ α) : Prop :=
  ∀ s, I s → P (r.run s).1 ∧ I (r.run s).2

variable {P Q : α → Prop} {R : β → Prop} {r : StateM σ α}

theorem Yields.pure {a : α} (h : P a) : Yields I P (Pure.pure a) :=
  fun _ hs => ⟨h, hs⟩

theorem Yields.bind {f : α → StateM σ β} (h : Yields I P r) (hf : ∀ a, P a → Yields I R (f a)) :
    Yields I R (r >>= f) := by
  intro s hs
  obtain ⟨ha, hs'⟩ := h s hs
  exact hf _ ha _ hs'

theorem Yields.imp (h : Yields I P r) (hPQ : ∀ a, P a → Q a) : Yields I Q r :=
  fun s hs => ⟨hPQ _ (h s hs).1, (h s hs).2⟩

theorem Yields.and (h : Yields I P r) (h' : Yields I Q r) : Yields I (fun a => P a ∧ Q a) r :=
  fun s hs => ⟨⟨(h s hs).1, (h' s hs).1⟩, (h s hs).2⟩

theorem Yields.map {f : α → β} (h : Yields I P r) (hf : ∀ a, P a → R (f a)) :
    Yields I R (f <$> r) :=
  fun s hs => ⟨hf _ (h s hs).1, (h s hs).2⟩

theorem Yields.ite {c : Prop} [Decidable c] {r r' : StateM σ α} (h : c → Yields I P r)
    (h' : ¬c → Yields I P r') : Yields I P (if c then r else r') := by
  split
  · exact h ‹_›
  · exact h' ‹_›

/-- Doing the same for each element of a list, a result is found for each. -/
theorem Yields.mapM {S : α → β → Prop} {f : α → StateM σ β} (l : List α)
    (h : ∀ a ∈ l, Yields I (S a) (f a)) : Yields I (List.Forall₂ S l) (l.mapM f) := by
  induction l with
  | nil => exact Yields.pure .nil
  | cons a l ih =>
    rw [List.mapM_cons]
    refine Yields.bind (h a List.mem_cons_self) fun b hb => ?_
    refine Yields.bind (ih fun a' ha' => h a' (List.mem_cons_of_mem a ha')) fun bs hbs => ?_
    exact Yields.pure (.cons hb hbs)

/-- From any state, a computation comes to something. -/
theorem Yields.anything (r : StateM σ α) : Yields (fun _ => True) (fun _ => True) r :=
  fun _ _ => ⟨trivial, trivial⟩

end Yields

/-! ## Computations that can fail -/

section Ends

/-- What is asked of a success and of a failure. -/
def Outcome (E : ε → Prop) (P : α → Prop) : Except ε α → Prop
  | .ok a => P a
  | .error e => E e

@[simp]
theorem outcome_ok {E : ε → Prop} {P : α → Prop} {a : α} : Outcome E P (.ok a) = P a := rfl

@[simp]
theorem outcome_error {E : ε → Prop} {P : α → Prop} {e : ε} :
    Outcome E P (.error e) = E e := rfl

theorem Outcome.ok_of_no_error {P : α → Prop} {x : Except ε α}
    (h : Outcome (fun _ => False) P x) : ∃ a, x = .ok a ∧ P a := by
  cases x with
  | ok a => exact ⟨a, rfl, h⟩
  | error e => exact h.elim

theorem any_toOption {x : Except ε α} {f : α → Bool} :
    x.toOption.any f = true ↔ ∃ a, x = .ok a ∧ f a = true := by
  cases x with
  | error e => simp [Except.toOption]
  | ok a => simp [Except.toOption]

theorem Outcome.imp {E : ε → Prop} {P Q : α → Prop} {x : Except ε α} (h : Outcome E P x)
    (hPQ : ∀ a, P a → Q a) : Outcome E Q x := by
  cases x with
  | ok a => exact hPQ a h
  | error e => exact h

theorem Outcome.anything {E : ε → Prop} (hE : ∀ e, E e) (x : Except ε α) :
    Outcome E (fun _ => True) x := by
  cases x with
  | ok a => trivial
  | error e => exact hE e

theorem Outcome.bind {β : Type} {E : ε → Prop} {P : α → Prop} {Q : β → Prop} {x : Except ε α}
    {f : α → Except ε β} (h : Outcome E P x) (hf : ∀ a, P a → Outcome E Q (f a)) :
    Outcome E Q (x >>= f) := by
  cases x with
  | ok a => exact hf a h
  | error e => exact h

/-- From every state with `I`, the computation succeeds with `P` or fails with `E`, and the state left
behind has `I` either way. -/
def Ends (I : σ → Prop) (E : ε → Prop) (P : α → Prop) (t : ExceptT ε (StateM σ) α) : Prop :=
  Yields I (Outcome E P) t.run

variable {E F : ε → Prop} {P Q : α → Prop} {R : β → Prop} {t : ExceptT ε (StateM σ) α}

theorem Ends.pure {a : α} (h : P a) : Ends I E P (Pure.pure a) :=
  fun _ hs => ⟨h, hs⟩

theorem Ends.throw {e : ε} (h : E e) :
    Ends I E P (throw e : ExceptT ε (StateM σ) α) :=
  fun _ hs => ⟨h, hs⟩

/-- From one state, a computation goes on with what the first part has come to, in the state that it has left. -/
theorem Ends.onward {f : α → ExceptT ε (StateM σ) β} {s : σ} (h : Ends I E P t) (hs : I s)
    (hf : ∀ a s', t.run.run s = (.ok a, s') → P a → I s' →
      Outcome E R ((f a).run.run s').1 ∧ I ((f a).run.run s').2) :
    Outcome E R ((t >>= f).run.run s).1 ∧ I ((t >>= f).run.run s).2 := by
  obtain ⟨ha, hs'⟩ := h s hs
  rw [ExceptT.run_bind, StateT.run_bind]
  cases hrun : t.run.run s with
  | mk result s' =>
    change Outcome E P (t.run.run s).1 at ha
    change I (t.run.run s).2 at hs'
    rw [hrun] at ha hs'
    cases result with
    | error e => exact ⟨ha, hs'⟩
    | ok a => exact hf a s' hrun ha hs'

theorem Ends.bind {f : α → ExceptT ε (StateM σ) β} (h : Ends I E P t)
    (hf : ∀ a, P a → Ends I E R (f a)) : Ends I E R (t >>= f) :=
  fun _ hs => h.onward hs fun a s' _ ha hs' => hf a ha s' hs'

/-- What holds of every success holds of the one that a run comes to. -/
theorem Ends.of_run {a : α} {s s' : σ} (h : Ends I E P t) (hs : I s)
    (hrun : t.run.run s = (.ok a, s')) : P a := by
  have hresult : Outcome E P (t.run.run s).1 := (h s hs).1
  rwa [hrun] at hresult

theorem Ends.imp (h : Ends I E P t) (hE : ∀ e, E e → F e) (hP : ∀ a, P a → Q a) :
    Ends I F Q t := by
  refine Yields.imp h fun x hx => ?_
  cases x with
  | ok a => exact hP a hx
  | error e => exact hE e hx

theorem Ends.and (h : Ends I E P t) (k : Ends I E Q t) : Ends I E (fun a => P a ∧ Q a) t := by
  refine Yields.imp (Yields.and h k) fun x hx => ?_
  cases x with
  | ok a => exact hx
  | error e => exact hx.1

/-- Whatever a computation comes to, it comes to from some state. -/
theorem Ends.reached (h : Ends I E P t) :
    Ends I E (fun a => P a ∧ ∃ s, (t.run.run s).1 = .ok a) t := by
  intro s hs
  obtain ⟨hresult, hafter⟩ := h s hs
  refine ⟨?_, hafter⟩
  cases hrun : (t.run.run s).1 with
  | error e =>
    rw [hrun] at hresult
    exact hresult
  | ok a =>
    rw [hrun] at hresult
    exact ⟨hresult, s, hrun⟩

/-- A computation with no error left to end in gives a result, and leaves what the next one can start from. -/
theorem Ends.succeeds (h : Ends I (fun _ => False) P t) {s : σ} (hs : I s) :
    ∃ a after, t.run.run s = (.ok a, after) ∧ P a ∧ I after := by
  obtain ⟨hresult, hafter⟩ := h s hs
  obtain ⟨a, ha, hp⟩ := hresult.ok_of_no_error
  exact ⟨a, (t.run.run s).2, Prod.ext ha rfl, hp, hafter⟩

theorem Ends.lift {r : StateM σ α} (h : Yields I P r) :
    Ends I E P (ExceptT.lift r : ExceptT ε (StateM σ) α) :=
  fun s hs => h s hs

/-- From any state, a computation succeeds or fails. -/
theorem Ends.anything (hE : ∀ e, E e) : Ends (fun _ => True) E (fun _ => True) t :=
  fun _ _ => ⟨Outcome.anything hE _, trivial⟩

theorem Ends.liftExcept {x : Except ε α} (h : Outcome E P x) :
    Ends I E P (liftM x : ExceptT ε (StateM σ) α) := by
  cases x with
  | ok a => exact Ends.pure h
  | error e => exact Ends.throw h

theorem Ends.adapt {f : ε → ε'} {F : ε' → Prop} (h : Ends I E P t) (hf : ∀ e, E e → F (f e)) :
    Ends I F P (t.adapt f) := by
  refine Yields.map h fun x hx => ?_
  cases x with
  | ok a => exact hx
  | error e => exact hf e hx

theorem Ends.mapM {S : α → β → Prop} {f : α → ExceptT ε (StateM σ) β} (l : List α)
    (h : ∀ a ∈ l, Ends I E (S a) (f a)) : Ends I E (List.Forall₂ S l) (l.mapM f) := by
  induction l with
  | nil => exact Ends.pure .nil
  | cons a l ih =>
    rw [List.mapM_cons]
    refine Ends.bind (h a List.mem_cons_self) fun b hb => ?_
    refine Ends.bind (ih fun a' ha' => h a' (List.mem_cons_of_mem a ha')) fun bs hbs => ?_
    exact Ends.pure (.cons hb hbs)

end Ends

/-! ## Computations that may come to nothing -/

section Finds

/-- From every state with `I`, whatever the computation comes to satisfies `P`, and the state left behind
has `I`. -/
def Finds (I : σ → Prop) (P : α → Prop) (t : OptionT (StateM σ) α) : Prop :=
  Yields I (fun o => ∀ a, o = some a → P a) t.run

variable {P Q : α → Prop} {R : β → Prop} {t : OptionT (StateM σ) α}

theorem Finds.pure {a : α} (h : P a) : Finds I P (Pure.pure a) :=
  fun _ hs => ⟨fun _ hb => Option.some.inj hb ▸ h, hs⟩

theorem Finds.failure : Finds I P (failure : OptionT (StateM σ) α) :=
  fun _ hs => ⟨fun _ hb => (Option.some_ne_none _ hb.symm).elim, hs⟩

theorem Finds.bind {f : α → OptionT (StateM σ) β} (h : Finds I P t)
    (hf : ∀ a, P a → Finds I R (f a)) : Finds I R (t >>= f) := by
  intro s hs
  obtain ⟨ha, hs'⟩ := h s hs
  rw [OptionT.run_bind, Option.elimM, StateT.run_bind]
  generalize t.run.run s = result at ha hs' ⊢
  obtain ⟨none | a, s'⟩ := result
  · exact ⟨fun _ hb => (Option.some_ne_none _ hb.symm).elim, hs'⟩
  · exact hf a (ha a rfl) s' hs'

theorem Finds.mk {r : StateM σ (Option α)} (h : Yields I (fun o => ∀ a, o = some a → P a) r) :
    Finds I P (OptionT.mk r) := h

end Finds

/-! ## Drawing -/

/-- A condition on contexts that no draw from the stream can break. -/
class Lasting (I : Context → Prop) : Prop where
  stream {c : Context} (s : Chance.Stream) : I c → I { c with stream := s }

instance : Lasting fun _ => True where
  stream _ h := h

section Drawing

variable {I : Context → Prop} [Lasting I]

theorem Roll.below_run (width : Chance.Width) (bound : Nat) (c : Context) :
    (Roll.below width bound).run c =
      ((c.stream.below width bound).1, { c with stream := (c.stream.below width bound).2 }) := by
  simp only [Roll.below, StateT.run]

theorem Roll.between_run (low high : Nat) (c : Context) :
    (Roll.between low high).run c =
      ((c.stream.between .wide low high).1,
        { c with stream := (c.stream.between .wide low high).2 }) := by
  simp only [Roll.between, StateT.run]

theorem Roll.below_yields (width : Chance.Width) {bound : Nat} (h : 0 < bound) :
    Yields I (· < bound) (Roll.below width bound) := by
  intro c hc
  rw [Roll.below_run]
  exact ⟨c.stream.below_lt width h, Lasting.stream _ hc⟩

theorem Roll.between_yields {low high : Nat} (h : low ≤ high) :
    Yields I (fun n => low ≤ n ∧ n ≤ high) (Roll.between low high) := by
  intro c hc
  rw [Roll.between_run]
  exact ⟨⟨c.stream.le_between .wide low high, c.stream.between_le .wide h⟩,
    Lasting.stream _ hc⟩

theorem Roll.chance_yields (percent : Nat) : Yields I (fun _ => True) (Roll.chance percent) := by
  unfold Roll.chance
  refine Yields.bind (Roll.below_yields .narrow (Nat.zero_lt_succ 99)) fun _ _ => ?_
  exact Yields.pure trivial

/-- A chance of nothing never comes true, and one of a hundred percent always does. -/
theorem Roll.chance_certain (percent : Nat) :
    Yields I (fun b => (percent = 0 → b = false) ∧ (100 ≤ percent → b = true))
      (Roll.chance percent) := by
  unfold Roll.chance
  refine Yields.bind (Roll.below_yields .narrow (Nat.zero_lt_succ 99)) fun side hside => ?_
  apply Yields.pure
  constructor
  · intro h
    simp [h]
  · intro h
    have hle : side + 1 ≤ percent := by omega
    simp [hle]

/-- A choice is one of the items, and there is none only of no items. -/
theorem Roll.choose_yields (items : List α) :
    Yields I (fun o => if items = [] then o = none else ∃ a ∈ items, o = some a)
      (Roll.choose items) := by
  unfold Roll.choose
  cases items with
  | nil => exact Yields.pure rfl
  | cons a items =>
    refine Yields.bind (Roll.below_yields .narrow (by simp)) fun i hi => Yields.pure ?_
    have hi' : i < (a :: items).length := hi
    simp only [reduceCtorEq, ↓reduceIte]
    exact ⟨(a :: items)[i], List.getElem_mem hi', List.getElem?_eq_getElem hi'⟩

/-- A word is one of the table, and empty only from an empty table. -/
theorem Roll.word_yields (table : List String) :
    Yields I (fun w => if table = [] then w = "" else w ∈ table) (Roll.word table) := by
  unfold Roll.word
  refine (Roll.choose_yields table).bind fun o ho => Yields.pure ?_
  split at ho
  · rw [ho, if_pos ‹_›]
    rfl
  · obtain ⟨w, hw, rfl⟩ := ho
    rw [if_neg ‹_›]
    exact hw

/-- What taking an item that fits out of a list comes to: the item, if one fits, and the other items. -/
structure Extracted (items : List α) (fits : α → Bool) (r : Option α × List α) : Prop where
  taken : ∀ a, r.1 = some a → a ∈ items ∧ fits a = true
  none : r.1 = none → ∀ a ∈ items, fits a = false
  rest : ∀ a ∈ r.2, a ∈ items
  kept : ∀ a ∈ items, fits a = false → a ∈ r.2

theorem Roll.extract_yields (items : List α) (fits : α → Bool) :
    Yields I (Extracted items fits) (Roll.extract items fits) := by
  unfold Roll.extract
  refine (Roll.choose_yields _).bind fun place hplace => ?_
  split at hplace
  · rename_i hplaces
    subst hplace
    refine Yields.pure ⟨nofun, fun _ a ha => ?_, fun _ h => h, fun _ h _ => h⟩
    obtain ⟨i, hi, rfl⟩ := List.getElem_of_mem ha
    have hunfit := List.filter_eq_nil_iff.1 hplaces i (List.mem_range.2 hi)
    rwa [List.getElem?_eq_getElem hi, Option.any_some, Bool.not_eq_true] at hunfit
  · obtain ⟨i, hi, rfl⟩ := hplace
    obtain ⟨hi, hfits⟩ := List.mem_filter.1 hi
    have hi := List.mem_range.1 hi
    rw [List.getElem?_eq_getElem hi, Option.any_some] at hfits
    refine Yields.pure ⟨fun a ha => ?_, fun h => ?_, fun a ha => List.mem_of_mem_eraseIdx ha,
      fun a ha hunfit => ?_⟩
    · obtain rfl := Option.some.inj ((List.getElem?_eq_getElem hi).symm.trans ha)
      exact ⟨List.getElem_mem hi, hfits⟩
    · exact absurd ((List.getElem?_eq_getElem hi).symm.trans h) (Option.some_ne_none _)
    · obtain ⟨j, hj, rfl⟩ := List.getElem_of_mem ha
      refine List.mem_eraseIdx_iff_getElem.2 ⟨j, hj, fun hij => ?_, rfl⟩
      subst hij
      exact absurd (hunfit.symm.trans hfits) Bool.false_ne_true

theorem Roll.gibberish_yields : Yields I (fun _ => True) Roll.gibberish := by
  have htimes : ∀ {β : Type} (n : Nat) (roll : Roll β), Yields I (fun _ => True) roll →
      Yields I (fun _ => True) (Roll.times n roll) := fun n roll h =>
    (Yields.mapM (S := fun _ _ => True) _ fun _ _ => h).imp fun _ _ => trivial
  have hletter : Yields I (fun _ => True) Roll.letter :=
    (Roll.below_yields .wide (by decide)).bind fun _ _ => Yields.pure trivial
  unfold Roll.gibberish
  refine (Roll.between_yields (by decide)).bind fun count _ => ?_
  refine Yields.bind (htimes count _ ?_) fun _ _ => Yields.pure trivial
  refine (Roll.between_yields (by decide)).bind fun length _ => ?_
  exact (htimes length _ hletter).bind fun _ _ => Yields.pure trivial

end Drawing

/-! ## Drawing as a part of something longer -/

section Lifting

variable {I : Context → Prop} {ε : Type} {E : ε → Prop} {P : α → Prop}

theorem Ends.drawn {roll : Roll α} (h : Yields I P roll) :
    Ends I E P (liftM roll : Attempt ε α) :=
  Ends.lift h

theorem Yields.narrate {roll : Roll α} (h : Yields I P roll) :
    Yields (fun n : Narration => I n.context) P roll.narrate :=
  fun n hn => h n.context hn

theorem Ends.narrate {attempt : Attempt ε α} (h : Ends I E P attempt) :
    Ends (fun n : Narration => I n.context) E P attempt.narrate :=
  fun n hn => h n.context hn

theorem Ends.narrated {attempt : Attempt ε α} (h : Ends I E P attempt) :
    Ends (fun n : Narration => I n.context) E P (liftM attempt : Telling ε α) :=
  Ends.narrate h

theorem Ends.rolled {roll : Roll α} (h : Yields I P roll) :
    Ends (fun n : Narration => I n.context) E P (liftM roll : Telling ε α) :=
  Ends.lift (Yields.narrate h)

theorem report_ends (ds : List Diagnostic) :
    Ends (fun n : Narration => I n.context) E (fun _ => True) (report ds) :=
  fun _ hn => ⟨trivial, hn⟩

end Lifting

end SpaceOpera
