import SpaceOpera.Proofs.Insertion

/-!
# Lists told again

What is said of an element of a list and of those in front of it (`Following`), and lists that tell another one
again: some elements are dropped and others put in (`Retold`).
-/

namespace SpaceOpera

open List (Forall₂)

variable {α β γ : Type}

/-! ## Elements with their past -/

/-- `P` holds of every element and of what stands in front of it, which begins with `before`. -/
def Following (P : List α → α → Prop) (before : List α) : List α → Prop
  | [] => True
  | a :: as => P before a ∧ Following P (before ++ [a]) as

/-- Every element with what stands in front of it, which begins with `before`. -/
def withPast (before : List α) : List α → List (List α × α)
  | [] => []
  | a :: as => (before, a) :: withPast (before ++ [a]) as

section Past

variable {P : List α → α → Prop} {before as bs : List α}

theorem following_append :
    Following P before (as ++ bs) ↔ Following P before as ∧ Following P (before ++ as) bs := by
  induction as generalizing before with
  | nil => simp [Following]
  | cons a as ih => simp [Following, ih, and_assoc]

theorem Following.imp {Q : List α → α → Prop} (h : Following P before as)
    (hPQ : ∀ past a, P past a → Q past a) : Following Q before as := by
  induction as generalizing before with
  | nil => trivial
  | cons a as ih => exact ⟨hPQ _ _ h.1, ih h.2⟩

theorem Following.of_append (h : Following P before as) {past : List α} {a : α} {rest : List α}
    (has : as = past ++ a :: rest) : P (before ++ past) a := by
  rw [has, following_append] at h
  exact h.2.1

/-- What is said of the elements of one list is said of those of another beside it. -/
theorem Following.of_forall₂ {R : α → β → Prop} {Q : List β → β → Prop} {before' : List β} {bs : List β}
    (h : Following P before as) (k : Forall₂ R as bs) (hbefore : Forall₂ R before before')
    (hQ : ∀ past past' a b, Forall₂ R past past' → R a b → P past a → Q past' b) :
    Following Q before' bs := by
  induction k generalizing before before' with
  | nil => trivial
  | cons hab _ ih =>
    obtain ⟨ha, h⟩ := h
    exact ⟨hQ _ _ _ _ hbefore hab ha, ih h (List.rel_append hbefore (.cons hab .nil))⟩

/-- What is said of the parts of all elements is said of the parts side by side. -/
theorem Following.flatMap {f : α → List β} {Q : List β → β → Prop}
    (h : Following (fun before a => Following Q (before.flatMap f) (f a)) before as) :
    Following Q (before.flatMap f) (as.flatMap f) := by
  induction as generalizing before with
  | nil => trivial
  | cons a as ih =>
    obtain ⟨ha, h⟩ := h
    have hrest := ih h
    rw [List.flatMap_append, List.flatMap_singleton] at hrest
    rw [List.flatMap_cons]
    exact following_append.2 ⟨ha, hrest⟩

/-- The second of two lists side by side by what is said of the past of its elements. -/
theorem forall₂_withPast {R : α → β → Prop} {P : List β → β → Prop} {S : List α × α → β → Prop}
    {before : List α} {before' : List β} {as : List α} {bs : List β} (h : Forall₂ R as bs)
    (hbefore : Forall₂ R before before') (hP : Following P before' bs)
    (hS : ∀ past past' a b, Forall₂ R past past' → R a b → P past' b → S (past, a) b) :
    Forall₂ S (withPast before as) bs := by
  induction h generalizing before before' with
  | nil => exact .nil
  | cons hab _ ih =>
    obtain ⟨hb, hP⟩ := hP
    refine .cons (hS _ _ _ _ hbefore hab hb) (ih ?_ hP)
    exact List.rel_append hbefore (.cons hab .nil)

end Past

/-! ## Retelling -/

/-- The second list tells the first one again, in order: an element is carried over with `R`, dropped with
`D`, or put in with `Q`. -/
inductive Retold (R : α → β → Prop) (D : α → Prop) (Q : β → Prop) : List α → List β → Prop
  | nil : Retold R D Q [] []
  | keep {a : α} {b : β} {as : List α} {bs : List β} (hab : R a b) (h : Retold R D Q as bs) :
      Retold R D Q (a :: as) (b :: bs)
  | drop {a : α} {as : List α} {bs : List β} (ha : D a) (h : Retold R D Q as bs) :
      Retold R D Q (a :: as) bs
  | put {b : β} {as : List α} {bs : List β} (hb : Q b) (h : Retold R D Q as bs) :
      Retold R D Q as (b :: bs)

namespace Retold

variable {R : α → β → Prop} {D : α → Prop} {Q : β → Prop} {as as' : List α} {bs bs' : List β}

theorem of_forall₂ (h : Forall₂ R as bs) : Retold R D Q as bs := by
  induction h with
  | nil => exact .nil
  | cons hab _ ih => exact .keep hab ih

theorem of_padded (h : Padded R Q as bs) : Retold R D Q as bs := by
  induction h with
  | nil => exact .nil
  | keep hab _ ih => exact .keep hab ih
  | put hb _ ih => exact .put hb ih

theorem append (h : Retold R D Q as bs) (k : Retold R D Q as' bs') :
    Retold R D Q (as ++ as') (bs ++ bs') := by
  induction h with
  | nil => exact k
  | keep hab _ ih => exact .keep hab ih
  | drop ha _ ih => exact .drop ha ih
  | put hb _ ih => exact .put hb ih

/-- Several elements are dropped in front. -/
theorem dropAll (has : ∀ a ∈ as, D a) (h : Retold R D Q as' bs) : Retold R D Q (as ++ as') bs := by
  induction as with
  | nil => exact h
  | cons a as ih =>
    obtain ⟨ha, has⟩ := List.forall_mem_cons.1 has
    exact .drop ha (ih has)

theorem filter (p : α → Bool) (Q : α → Prop) (as : List α) :
    Retold (fun a b => b = a ∧ p a = true) (fun a => p a = false) Q as (as.filter p) := by
  induction as with
  | nil => exact .nil
  | cons a as ih =>
    by_cases ha : p a = true
    · rw [List.filter_cons_of_pos ha]
      exact .keep ⟨rfl, ha⟩ ih
    · rw [List.filter_cons_of_neg ha]
      exact .drop (Bool.eq_false_iff.2 ha) ih

theorem of_nil (h : Retold R D Q as []) : ∀ a ∈ as, D a := by
  generalize hbs : ([] : List β) = bs at h
  induction h with
  | nil => exact nofun
  | keep | put => cases hbs
  | drop ha _ ih => exact List.forall_mem_cons.2 ⟨ha, ih hbs⟩

/-- The first element of the retelling is put in, or it carries an element over before which others are
dropped. -/
theorem exists_of_cons {b : β} (h : Retold R D Q as (b :: bs)) : ∃ ds as', as = ds ++ as' ∧
    (∀ a ∈ ds, D a) ∧ (Q b ∧ Retold R D Q as' bs ∨
      ∃ a as'', as' = a :: as'' ∧ R a b ∧ Retold R D Q as'' bs) := by
  generalize hbs : b :: bs = cs at h
  induction h with
  | nil => cases hbs
  | keep hab h =>
    cases hbs
    exact ⟨[], _, rfl, nofun, Or.inr ⟨_, _, rfl, hab, h⟩⟩
  | drop ha _ ih =>
    obtain ⟨ds, as', rfl, hds, hrest⟩ := ih hbs
    exact ⟨_ :: ds, as', rfl, List.forall_mem_cons.2 ⟨ha, hds⟩, hrest⟩
  | put hb h =>
    cases hbs
    exact ⟨[], _, rfl, nofun, Or.inl ⟨hb, h⟩⟩

/-- Telling again twice tells again: what is dropped the second time may have been carried over or put in,
and what was put in may be carried over. -/
theorem comp {S : β → γ → Prop} {D' : β → Prop} {Q' : γ → Prop} {T : α → γ → Prop} {D'' : α → Prop}
    {Q'' : γ → Prop} {cs : List γ} (h : Retold R D Q as bs) (k : Retold S D' Q' bs cs)
    (hT : ∀ a b c, R a b → S b c → T a c) (hD : ∀ a, D a → D'' a)
    (hD' : ∀ a b, R a b → D' b → D'' a) (hQ : ∀ b c, Q b → S b c → Q'' c) (hQ' : ∀ c, Q' c → Q'' c) :
    Retold T D'' Q'' as cs := by
  induction k generalizing as with
  | nil =>
    rw [← List.append_nil as]
    exact .dropAll (fun a ha => hD a (h.of_nil a ha)) .nil
  | keep hbc _ ih =>
    obtain ⟨ds, as', rfl, hds, ⟨hb, h⟩ | ⟨a, as'', rfl, hab, h⟩⟩ := h.exists_of_cons
    · exact .dropAll (fun a ha => hD a (hds a ha)) (.put (hQ _ _ hb hbc) (ih h))
    · exact .dropAll (fun a ha => hD a (hds a ha)) (.keep (hT _ _ _ hab hbc) (ih h))
  | drop hb _ ih =>
    obtain ⟨ds, as', rfl, hds, ⟨-, h⟩ | ⟨a, as'', rfl, hab, h⟩⟩ := h.exists_of_cons
    · exact .dropAll (fun a ha => hD a (hds a ha)) (ih h)
    · exact .dropAll (fun a ha => hD a (hds a ha)) (.drop (hD' _ _ hab hb) (ih h))
  | put hc _ ih => exact .put (hQ' _ hc) (ih h)

end Retold

end SpaceOpera
