import Mathlib.Data.List.Chain
import Mathlib.Data.List.Forall2

/-!
# Lists with elements put in

`Padded R Q as bs` says that `bs` carries the elements of `as` on, one for one and in order with `R` between
them, and holds further elements anywhere, all of them with `Q`.
-/

namespace SpaceOpera

variable {α β γ : Type}

/-! ## Lists side by side -/

section SideBySide

open List (Forall₂)

variable {R : α → β → Prop} {as : List α} {bs : List β}

theorem exists_of_mem_right (h : Forall₂ R as bs) {b : β} (hb : b ∈ bs) : ∃ a ∈ as, R a b := by
  induction h with
  | nil => exact absurd hb List.not_mem_nil
  | cons hab _ ih =>
    rcases List.mem_cons.1 hb with rfl | hb
    · exact ⟨_, List.mem_cons_self, hab⟩
    · obtain ⟨a, ha, hr⟩ := ih hb
      exact ⟨a, List.mem_cons_of_mem _ ha, hr⟩

theorem exists_of_mem_left (h : Forall₂ R as bs) {a : α} (ha : a ∈ as) : ∃ b ∈ bs, R a b :=
  exists_of_mem_right h.flip ha

theorem forall₂_comp {S : β → γ → Prop} {T : α → γ → Prop} {cs : List γ} (h : Forall₂ R as bs)
    (k : Forall₂ S bs cs) (hT : ∀ a b c, R a b → S b c → T a c) : Forall₂ T as cs := by
  induction h generalizing cs with
  | nil =>
    cases k
    exact .nil
  | cons hab _ ih =>
    cases k with
    | cons hbc k => exact .cons (hT _ _ _ hab hbc) (ih k)

theorem exists_append_of_forall₂ {as' : List α} (h : Forall₂ R (as ++ as') bs) :
    ∃ cs ds, bs = cs ++ ds ∧ Forall₂ R as cs ∧ Forall₂ R as' ds := by
  induction as generalizing bs with
  | nil => exact ⟨[], bs, rfl, .nil, h⟩
  | cons a as ih =>
    obtain ⟨b, bs, hab, hrest, rfl⟩ := List.forall₂_cons_left_iff.1 h
    obtain ⟨cs, ds, rfl, hcs, hds⟩ := ih hrest
    exact ⟨b :: cs, ds, rfl, .cons hab hcs, hds⟩

theorem isChain_of_forall₂ {S : α → α → Prop} {S' : β → β → Prop} (h : Forall₂ R as bs)
    (hS : ∀ a a' b b', R a b → R a' b' → S a a' → S' b b') (has : as.IsChain S) :
    bs.IsChain S' := by
  induction h with
  | nil => exact .nil
  | @cons a b as bs hab h ih =>
    obtain ⟨hhead, htail⟩ := List.isChain_cons.1 has
    refine List.isChain_cons.2 ⟨fun b' hb' => ?_, ih htail⟩
    cases h with
    | nil => cases hb'
    | cons hab' =>
      cases hb'
      exact hS _ _ _ _ hab hab' (hhead _ rfl)

theorem pairwise_of_forall₂ {S : α → α → Prop} {S' : β → β → Prop} (h : Forall₂ R as bs)
    (hS : ∀ a a' b b', R a b → R a' b' → S a a' → S' b b') (has : as.Pairwise S) :
    bs.Pairwise S' := by
  induction h with
  | nil => exact .nil
  | cons hab h ih =>
    obtain ⟨hhead, htail⟩ := List.pairwise_cons.1 has
    refine List.pairwise_cons.2 ⟨fun b' hb' => ?_, ih htail⟩
    obtain ⟨a', ha', hab'⟩ := exists_of_mem_right h hb'
    exact hS _ _ _ _ hab hab' (hhead a' ha')

theorem map_eq_of_forall₂ {f : α → γ} {g : β → γ} (h : Forall₂ R as bs)
    (hR : ∀ a b, R a b → g b = f a) : bs.map g = as.map f := by
  induction h with
  | nil => rfl
  | cons hab _ ih => rw [List.map_cons, List.map_cons, hR _ _ hab, ih]

theorem forall₂_filterMap {f : α → Option β} (h : ∀ a ∈ as, (f a).isSome = true) :
    Forall₂ (fun a b => f a = some b) as (as.filterMap f) := by
  induction as with
  | nil => exact .nil
  | cons a as ih =>
    obtain ⟨ha, has⟩ := List.forall_mem_cons.1 h
    obtain ⟨b, hb⟩ := Option.isSome_iff_exists.1 ha
    rw [List.filterMap_cons_some hb]
    exact .cons hb (ih has)

end SideBySide

/-- A list of which two elements are picked, the first of all among them. -/
theorem exists_of_filter_eq_pair {p : α → Bool} {l : List α} {a b : α} (h : l.filter p = [a, b])
    (hfirst : ∀ x ∈ l.head?, p x = true) :
    ∃ as bs, l = a :: (as ++ b :: bs) ∧ ∀ x ∈ as ++ bs, x ∈ l ∧ p x = false := by
  obtain ⟨before, behind, rfl, hbefore, -, hrest⟩ := List.filter_eq_cons_iff.1 h
  obtain ⟨as, bs, rfl, has, -, hbs⟩ := List.filter_eq_cons_iff.1 hrest
  obtain rfl : before = [] := by
    cases before with
    | nil => rfl
    | cons x before => exact absurd (hfirst x rfl) (hbefore x List.mem_cons_self)
  refine ⟨as, bs, rfl, List.forall_mem_append.2 ⟨fun x hx => ?_, fun x hx => ?_⟩⟩
  · exact ⟨by simp [hx], by simpa using has x hx⟩
  · exact ⟨by simp [hx], by simpa using List.filter_eq_nil_iff.1 hbs x hx⟩

/-! ## Elements put in -/

/-- The second list carries on the first, with further elements put in. -/
inductive Padded (R : α → β → Prop) (Q : β → Prop) : List α → List β → Prop
  | nil : Padded R Q [] []
  | keep {a : α} {b : β} {as : List α} {bs : List β} (hab : R a b) (h : Padded R Q as bs) :
      Padded R Q (a :: as) (b :: bs)
  | put {b : β} {as : List α} {bs : List β} (hb : Q b) (h : Padded R Q as bs) :
      Padded R Q as (b :: bs)

namespace Padded

variable {R : α → β → Prop} {Q : β → Prop} {as as' : List α} {bs bs' : List β}

theorem of_forall₂ (h : List.Forall₂ R as bs) : Padded R Q as bs := by
  induction h with
  | nil => exact .nil
  | cons hab _ ih => exact .keep hab ih

theorem refl (P : α → Prop) (as : List α) : Padded Eq P as as :=
  .of_forall₂ (List.forall₂_refl as)

theorem append (h : Padded R Q as bs) (k : Padded R Q as' bs') :
    Padded R Q (as ++ as') (bs ++ bs') := by
  induction h with
  | nil => exact k
  | keep hab _ ih => exact .keep hab ih
  | put hb _ ih => exact .put hb ih

theorem imp {S : α → β → Prop} {P : β → Prop} (h : Padded R Q as bs)
    (hRS : ∀ a b, R a b → S a b) (hQP : ∀ b, Q b → P b) : Padded S P as bs := by
  induction h with
  | nil => exact .nil
  | keep hab _ ih => exact .keep (hRS _ _ hab) ih
  | put hb _ ih => exact .put (hQP _ hb) ih

/-- Several elements are put in front. -/
theorem putAll (hbs : ∀ b ∈ bs, Q b) (h : Padded R Q as bs') : Padded R Q as (bs ++ bs') := by
  induction bs with
  | nil => exact h
  | cons b bs ih =>
    obtain ⟨hb, hbs⟩ := List.forall_mem_cons.1 hbs
    exact .put hb (ih hbs)

/-- Several elements are put behind. -/
theorem putBehind (h : Padded R Q as bs) (hbs : ∀ b ∈ bs', Q b) : Padded R Q as (bs ++ bs') := by
  have hput : Padded R Q [] (bs' ++ []) := .putAll hbs .nil
  rw [List.append_nil] at hput
  rw [← List.append_nil as]
  exact h.append hput

/-- Carrying on twice carries on; what was put in first is carried on too. -/
theorem comp {S : β → γ → Prop} {T : α → γ → Prop} {P P' : γ → Prop} {cs : List γ}
    (h : Padded R Q as bs) (k : Padded S P bs cs) (hT : ∀ a b c, R a b → S b c → T a c)
    (hQ : ∀ b c, Q b → S b c → P' c) (hP : ∀ c, P c → P' c) : Padded T P' as cs := by
  induction k generalizing as with
  | nil =>
    cases h
    exact .nil
  | keep hbc _ ih =>
    cases h with
    | keep hab h => exact .keep (hT _ _ _ hab hbc) (ih h)
    | put hb h => exact .put (hQ _ _ hb hbc) (ih h)
  | put hc _ ih => exact .put (hP _ hc) (ih h)

/-- Dropping on both sides what is dropped on one. -/
theorem filter {p : α → Bool} {q : β → Bool} (h : Padded R Q as bs)
    (hpq : ∀ a b, R a b → p a = q b) : Padded R Q (as.filter p) (bs.filter q) := by
  induction h with
  | nil => exact .nil
  | keep hab _ ih =>
    rw [List.filter_cons, List.filter_cons, hpq _ _ hab]
    split
    · exact .keep hab ih
    · exact ih
  | put hb _ ih =>
    rw [List.filter_cons]
    split
    · exact .put hb ih
    · exact ih

/-- Where nothing was put in, the lists correspond one for one. -/
theorem forall₂ (h : Padded R Q as bs) (hQ : ∀ b ∈ bs, ¬Q b) : List.Forall₂ R as bs := by
  induction h with
  | nil => exact .nil
  | keep hab _ ih => exact .cons hab (ih fun b hb => hQ b (List.mem_cons_of_mem _ hb))
  | put hb _ _ => exact absurd hb (hQ _ List.mem_cons_self)

/-- What picks nothing that was put in picks the same from both. -/
theorem filter_eq {P : α → Prop} {p : α → Bool} {cs : List α} (h : Padded Eq P as cs)
    (hP : ∀ b, P b → p b = false) : cs.filter p = as.filter p := by
  induction h with
  | nil => rfl
  | keep hab _ ih =>
    subst hab
    rw [List.filter_cons, List.filter_cons, ih]
  | put hb _ ih => rw [List.filter_cons_of_neg (by simp [hP _ hb]), ih]

theorem flatMap {as : List γ} {bs : List γ} {f : γ → List α} {g : γ → List β}
    (h : List.Forall₂ (fun a b => Padded R Q (f a) (g b)) as bs) :
    Padded R Q (as.flatMap f) (bs.flatMap g) := by
  induction h with
  | nil => exact .nil
  | cons hab _ ih =>
    rw [List.flatMap_cons, List.flatMap_cons]
    exact hab.append ih

theorem mem (h : Padded R Q as bs) {b : β} (hb : b ∈ bs) : (∃ a ∈ as, R a b) ∨ Q b := by
  induction h with
  | nil => exact absurd hb List.not_mem_nil
  | @keep a _ _ _ hab _ ih =>
    rcases List.mem_cons.1 hb with rfl | hb
    · exact Or.inl ⟨a, List.mem_cons_self, hab⟩
    · exact (ih hb).imp_left fun ⟨c, hc, hcb⟩ => ⟨c, List.mem_cons_of_mem _ hc, hcb⟩
  | put hq _ ih =>
    rcases List.mem_cons.1 hb with rfl | hb
    · exact Or.inr hq
    · exact ih hb

theorem mem_left (h : Padded R Q as bs) {a : α} (ha : a ∈ as) : ∃ b ∈ bs, R a b := by
  induction h with
  | nil => exact absurd ha List.not_mem_nil
  | @keep _ b _ _ hab _ ih =>
    rcases List.mem_cons.1 ha with rfl | ha
    · exact ⟨b, List.mem_cons_self, hab⟩
    · obtain ⟨d, hd, had⟩ := ih ha
      exact ⟨d, List.mem_cons_of_mem _ hd, had⟩
  | put _ _ ih =>
    obtain ⟨d, hd, had⟩ := ih ha
    exact ⟨d, List.mem_cons_of_mem _ hd, had⟩

/-- A relation between neighbours stays if it holds of whatever is put in and any neighbour. -/
theorem isChain {P : α → Prop} {S : α → α → Prop} {cs : List α} (h : Padded Eq P as cs)
    (hl : ∀ a b, P a → S a b) (hr : ∀ a b, P b → S a b) (has : as.IsChain S) :
    cs.IsChain S := by
  induction h with
  | nil => exact .nil
  | @keep a b as bs hab h ih =>
    subst hab
    obtain ⟨hhead, htail⟩ := List.isChain_cons.1 has
    refine List.isChain_cons.2 ⟨fun b hb => ?_, ih htail⟩
    cases h with
    | nil => cases hb
    | keep hab =>
      subst hab
      exact hhead b hb
    | put hq =>
      cases hb
      exact hr a _ hq
  | put hq _ ih => exact List.isChain_cons.2 ⟨fun b _ => hl _ b hq, ih has⟩

end Padded

end SpaceOpera
