import Mathlib.Data.List.Forall2

/-!
# Computations that succeed

What a computation that can fail has gone through when it succeeds: a sequence has succeeded step by step, and
a list element by element.  A run of a computation that carries a state along succeeds in the same way, each
step from the state that the one before it has left.
-/

namespace SpaceOpera

open List (Forall₂)

section Success

variable {α β ε : Type}

@[simp]
theorem ok_bind (a : α) (f : α → Except ε β) : (Except.ok a >>= f) = f a := rfl

theorem bind_eq_ok {x : Except ε α} {f : α → Except ε β} {b : β} :
    (x >>= f) = .ok b ↔ ∃ a, x = .ok a ∧ f a = .ok b := by
  cases x with
  | error e => simp [bind, Except.bind]
  | ok a => simp

theorem map_eq_ok {x : Except ε α} {f : α → β} {b : β} :
    x.map f = .ok b ↔ ∃ a, x = .ok a ∧ f a = b := by
  cases x with
  | error e => simp [Except.map]
  | ok a => simp [Except.map]

theorem mapError_eq_ok {ε' : Type} {x : Except ε α} {f : ε → ε'} {a : α} :
    x.mapError f = .ok a ↔ x = .ok a := by
  cases x with
  | error e => simp [Except.mapError]
  | ok a => simp [Except.mapError]

/-- Doing the same for each element of a list succeeds where it succeeds for each. -/
theorem mapM_eq_ok_iff {f : α → Except ε β} {as : List α} {bs : List β} :
    as.mapM f = .ok bs ↔ Forall₂ (fun a b => f a = .ok b) as bs := by
  induction as generalizing bs with
  | nil =>
    constructor
    · intro h
      cases h
      exact .nil
    · rintro ⟨⟩
      rfl
  | cons a as ih =>
    simp only [List.mapM_cons, bind_eq_ok, ih]
    constructor
    · rintro ⟨b, hb, bs, hbs, h⟩
      cases h
      exact .cons hb hbs
    · rintro (_ | ⟨hb, hbs⟩)
      exact ⟨_, hb, _, hbs, rfl⟩

theorem mapM_map_eq_ok {f : β → Except ε α} {g : α → β} {l : List α}
    (h : ∀ a ∈ l, f (g a) = .ok a) : (l.map g).mapM f = .ok l := by
  refine mapM_eq_ok_iff.2 (List.forall₂_map_left_iff.2 (List.forall₂_same.2 h))

theorem option_mapM_eq_ok_iff {f : α → Except ε β} {a : Option α} {b : Option β} :
    a.mapM f = .ok b ↔ Option.Rel (fun a b => f a = .ok b) a b := by
  cases a with
  | none =>
    constructor
    · intro h
      cases h
      exact .none
    · rintro ⟨⟩
      rfl
  | some a =>
    have hmap : (some a).mapM f = (f a).map some := Option.mapM_some a f
    rw [hmap, map_eq_ok]
    constructor
    · rintro ⟨b, hb, rfl⟩
      exact .some hb
    · rintro ⟨⟩
      exact ⟨_, ‹_›, rfl⟩

theorem rel_imp {R S : α → β → Prop} {a : Option α} {b : Option β} (h : Option.Rel R a b)
    (hRS : ∀ a b, R a b → S a b) : Option.Rel S a b := by
  cases h with
  | none => exact .none
  | some hab => exact .some (hRS _ _ hab)

end Success

/-! ## Runs -/

section Runs

variable {σ α β ε : Type} {x : ExceptT ε (StateM σ) α} {f : α → ExceptT ε (StateM σ) β} {s s' : σ}
  {a : α}

/-- How a run goes on after a success. -/
theorem run_bind_ok (h : x.run.run s = (.ok a, s')) : (x >>= f).run.run s = (f a).run.run s' := by
  rw [ExceptT.run_bind, StateT.run_bind, h]
  rfl

/-- A run ends with a failure. -/
theorem run_bind_error {e : ε} (h : x.run.run s = (.error e, s')) :
    (x >>= f).run.run s = (.error e, s') := by
  rw [ExceptT.run_bind, StateT.run_bind, h]
  rfl

/-- What a run that succeeds has gone through. -/
theorem exists_of_bind_ok {b : β} (h : ((x >>= f).run.run s).1 = .ok b) :
    ∃ a s', x.run.run s = (.ok a, s') ∧ ((f a).run.run s').1 = .ok b := by
  cases hx : x.run.run s with
  | mk result s' =>
    cases result with
    | ok a => exact ⟨a, s', rfl, run_bind_ok hx ▸ h⟩
    | error e =>
      rw [run_bind_error hx] at h
      cases h

/-- A run in two parts succeeds where both parts do. -/
theorem run_bind_eq_ok {b : β} {s'' : σ} : (x >>= f).run.run s = (.ok b, s'') ↔
    ∃ a s', x.run.run s = (.ok a, s') ∧ (f a).run.run s' = (.ok b, s'') := by
  constructor
  · intro h
    obtain ⟨a, s', ha, -⟩ := exists_of_bind_ok (congrArg Prod.fst h)
    exact ⟨a, s', ha, run_bind_ok ha ▸ h⟩
  · rintro ⟨a, s', ha, h⟩
    exact run_bind_ok ha ▸ h

/-- A run in two parts fails where the first part does, or else the second. -/
theorem run_bind_eq_error {e : ε} {s'' : σ} : (x >>= f).run.run s = (.error e, s'') ↔
    x.run.run s = (.error e, s'') ∨
      ∃ a s', x.run.run s = (.ok a, s') ∧ (f a).run.run s' = (.error e, s'') := by
  cases hx : x.run.run s with
  | mk result s' =>
    cases result with
    | error e' =>
      rw [run_bind_error hx]
      constructor
      · intro h
        cases h
        exact .inl rfl
      · rintro (h | ⟨_, _, hok, -⟩)
        · cases h
          rfl
        · cases hok
    | ok a =>
      rw [run_bind_ok hx]
      constructor
      · exact fun h => .inr ⟨a, s', rfl, h⟩
      · rintro (h | ⟨_, _, hok, h⟩)
        · cases h
        · cases hok
          exact h

theorem run_pure_eq_ok {a' : α} :
    (pure a : ExceptT ε (StateM σ) α).run.run s = (.ok a', s') ↔ a' = a ∧ s' = s := by
  constructor
  · intro h
    cases h
    exact ⟨rfl, rfl⟩
  · rintro ⟨rfl, rfl⟩
    rfl

theorem run_liftExcept_eq_ok {x : Except ε α} :
    (liftM x : ExceptT ε (StateM σ) α).run.run s = (.ok a, s') ↔ x = .ok a ∧ s' = s := by
  cases x with
  | ok b =>
    constructor
    · intro h
      cases h
      exact ⟨rfl, rfl⟩
    · rintro ⟨h, rfl⟩
      cases h
      rfl
  | error e => exact iff_of_false (fun h => nomatch h) (fun h => nomatch h.1)

theorem run_lift_eq_ok {r : StateM σ α} :
    (liftM r : ExceptT ε (StateM σ) α).run.run s = (.ok a, s') ↔ r.run s = (a, s') := by
  have hrun : (liftM r : ExceptT ε (StateM σ) α).run.run s = (.ok (r.run s).1, (r.run s).2) := rfl
  rw [hrun, Prod.mk.injEq, Except.ok.injEq, Prod.ext_iff]

theorem liftExcept_bind (x : Except ε α) (f : α → Except ε β) :
    (liftM (x >>= f) : ExceptT ε (StateM σ) β) = liftM x >>= fun a => liftM (f a) := by
  cases x <;> rfl

/-- What needs no state can be done before the run. -/
theorem mapM_liftExcept (f : α → Except ε β) (as : List α) :
    (as.mapM fun a => (liftM (f a) : ExceptT ε (StateM σ) β)) = liftM (as.mapM f) := by
  induction as with
  | nil => rfl
  | cons a as ih =>
    simp only [List.mapM_cons, ih, liftExcept_bind]
    rfl

theorem option_mapM_liftExcept (f : α → Except ε β) (a : Option α) :
    (a.mapM fun a => (liftM (f a) : ExceptT ε (StateM σ) β)) = liftM (a.mapM f) := by
  cases a with
  | none => rfl
  | some a =>
    rw [Option.mapM_some, Option.mapM_some]
    cases f a <;> rfl

end Runs

end SpaceOpera
