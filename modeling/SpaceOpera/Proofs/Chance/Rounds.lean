import SpaceOpera.Proofs.Chance.Variety

/-!
# Rounds of varied choices

A bag and what its round has drawn so far are together all indices of the options (`InRound`).  A draw moves
one index from the one to the other, and nothing but a draw of the same options touches the bag
(`drawn_eq`): so the draws of a list of options come in rounds, each of them a permutation of all indices,
whatever is done in between (`varied_uses`).
-/

namespace SpaceOpera.Chance

/-! ## Uses -/

/-- What can be done with a variety: an index is picked of some options, from whatever stream there is then,
or the variety is switched on or off. -/
inductive Use where
  | pick (options : List String) (stream : Stream)
  | switch (on : Bool)

/-- A pick of an index, and whether the variety was enabled then. -/
structure Pick where
  options : List String
  enabled : Bool
  index : Option Nat

namespace Variety

/-- What is picked by the uses, one after the other. -/
def picks (v : Variety) : List Use → List Pick
  | [] => []
  | .pick options s :: us =>
    let (index, v', _) := v.pickIndex options s
    ⟨options, v.enabled, index⟩ :: picks v' us
  | .switch on :: us => picks { v with enabled := on } us

/-- The indices that the enabled picks of the options return. -/
def drawn (v : Variety) (options : List String) (us : List Use) : List Nat :=
  ((v.picks us).filter fun p => p.enabled && p.options == options).filterMap Pick.index

end Variety

/-- The streams that the enabled picks of the options meet; `on` says whether the first pick is enabled. -/
def streamsOf (options : List String) : Bool → List Use → List Stream
  | _, [] => []
  | on, .pick other s :: us =>
    if on && other == options then s :: streamsOf options on us else streamsOf options on us
  | _, .switch on :: us => streamsOf options on us

/-- The part of the list that is its block number `k` when it is cut into blocks of `n`. -/
def blockOf (n k : Nat) (is : List Nat) : List Nat :=
  (is.drop (k * n)).take n

/-! ## One draw -/

namespace Variety

variable {v w : Variety} {options other : List String}

theorem enabled_pickIndex (v : Variety) (options : List String) (s : Stream) :
    (v.pickIndex options s).2.1.enabled = v.enabled := by
  unfold pickIndex
  dsimp only
  split
  · rfl
  split
  · rfl
  split <;> rfl

/-- A pick of other options, or one while the variety is off, leaves the bag alone. -/
theorem bag_pickIndex (h : (v.enabled && other == options) = false) (s : Stream) :
    (v.pickIndex other s).2.1.bag options = v.bag options := by
  unfold pickIndex
  dsimp only
  split
  · rfl
  split
  · rfl
  rename_i hon
  have hother : options ≠ other := by
    rintro rfl
    simp at h hon
    exact absurd (h.symm.trans hon) Bool.false_ne_true
  split
  · exact bag_setBag_of_ne v _ hother
  · rfl

theorem drawn_of_other (h : (v.enabled && other == options) = false) (s : Stream) (us : List Use) :
    v.drawn options (.pick other s :: us) = (v.pickIndex other s).2.1.drawn options us := by
  rw [drawn, picks, List.filter_cons_of_neg (by simpa using h)]
  rfl

/-- An enabled pick of the options takes an index out of their bag. -/
theorem exists_drawn (hoptions : options ≠ []) (bag : List Nat) (hv : v.freshBag options = bag)
    (s : Stream) : ∃ i rest, takeOut bag (s.below .wide bag.length).1 = some (i, rest) ∧
      bag.Perm (i :: rest) ∧ (v.enabled = true → ∀ us,
        v.drawn options (.pick options s :: us) = i :: (v.setBag options rest).drawn options us) := by
  subst hv
  have hbag : 0 < (v.freshBag options).length := List.length_pos_iff.2 (freshBag_ne_nil hoptions)
  obtain ⟨i, rest, htake, hperm⟩ := takeOut_perm (s.below_lt .wide hbag)
  refine ⟨i, rest, htake, hperm, fun hon us => ?_⟩
  have hpick : v.pickIndex options s = (some i, v.setBag options rest,
      (s.below .wide (v.freshBag options).length).2) := by
    unfold pickIndex
    simp only [List.isEmpty_iff, hoptions, hon, htake, Bool.not_true, Bool.false_eq_true, ↓reduceIte]
  simp [drawn, picks, hpick, hon]

theorem freshBag_congr (h : v.bag options = w.bag options) :
    v.freshBag options = w.freshBag options := by
  unfold freshBag
  rw [h]

/-- What the options are drawn depends on their bag and on the streams of their own enabled picks, and on
nothing else that is done. -/
theorem drawn_eq (hoptions : options ≠ []) (hbag : v.freshBag options = w.freshBag options)
    (hw : w.enabled = true) (us : List Use) :
    v.drawn options us = w.drawn options ((streamsOf options v.enabled us).map (.pick options)) := by
  induction us generalizing v w with
  | nil => rfl
  | cons u us ih =>
    cases u with
    | switch on => exact ih (v := { v with enabled := on }) hbag hw
    | pick other s =>
      rw [streamsOf]
      by_cases h : (v.enabled && other == options) = true
      · rw [if_pos h, List.map_cons]
        obtain ⟨hon, hother⟩ := Bool.and_eq_true_iff.1 h
        obtain rfl := eq_of_beq hother
        obtain ⟨i, rest, htake, -, hv⟩ := exists_drawn hoptions _ hbag s
        obtain ⟨j, rest', htake', -, hw'⟩ := exists_drawn (v := w) hoptions _ rfl s
        obtain ⟨rfl, rfl⟩ := Prod.ext_iff.1 (Option.some.inj (htake.symm.trans htake'))
        rw [hv hon, hw' hw, ih (w := w.setBag other rest) (freshBag_congr ?_) hw]
        · rfl
        · rw [bag_setBag, bag_setBag]
      · have hfalse := Bool.eq_false_iff.2 h
        rw [if_neg h, drawn_of_other hfalse, ih (w := w) ?_ hw, enabled_pickIndex]
        exact (freshBag_congr (bag_pickIndex hfalse s)).trans hbag

end Variety

/-! ## Rounds -/

/-- What the present round of the options has drawn so far is what their bag lacks. -/
def Variety.InRound (v : Variety) (options : List String) (past : List Nat) : Prop :=
  (past ++ v.freshBag options).Perm (List.range options.length)

/-- Indices below `n` that come in rounds: each round has all of them once, and in the one that is not over
none comes twice. -/
def InRounds (n : Nat) (is : List Nat) : Prop :=
  ∃ rounds : List (List Nat), ∃ rest, is = rounds.flatten ++ rest ∧
    (∀ r ∈ rounds, r.Perm (List.range n)) ∧ rest.length < n ∧ rest.Nodup ∧ ∀ i ∈ rest, i < n

section Rounds

variable {n : Nat} {is past : List Nat} {v : Variety} {options : List String}

theorem InRounds.cons {r : List Nat} (h : InRounds n is) (hr : r.Perm (List.range n)) :
    InRounds n (r ++ is) := by
  obtain ⟨rounds, rest, rfl, hrounds, hrest⟩ := h
  refine ⟨r :: rounds, rest, ?_, List.forall_mem_cons.2 ⟨hr, hrounds⟩, hrest⟩
  rw [List.flatten_cons, List.append_assoc]

/-- The round goes on with the index that is drawn, or it is over with it. -/
theorem Variety.InRound.next (h : v.InRound options past) {i : Nat} {rest : List Nat}
    (hperm : (v.freshBag options).Perm (i :: rest)) :
    (past ++ [i]).Perm (List.range options.length) ∧ (v.setBag options rest).InRound options [] ∨
      (v.setBag options rest).InRound options (past ++ [i]) := by
  have hround : (past ++ [i] ++ rest).Perm (List.range options.length) := by
    rw [List.append_assoc, List.singleton_append]
    exact (hperm.symm.append_left past).trans h
  unfold InRound freshBag
  rw [bag_setBag]
  cases rest with
  | nil => exact Or.inl ⟨by simpa using hround, .refl _⟩
  | cons j rest => exact Or.inr hround

theorem Variety.InRound.inRounds (h : v.InRound options past) (hoptions : options ≠ []) :
    InRounds options.length past := by
  have hlength := h.length_eq
  rw [List.length_append, List.length_range] at hlength
  have hbag : 0 < (v.freshBag options).length := List.length_pos_iff.2 (freshBag_ne_nil hoptions)
  refine ⟨[], past, rfl, nofun, by omega, ?_, fun i hi => ?_⟩
  · exact (List.nodup_append.1 (h.nodup_iff.2 List.nodup_range)).1
  · exact List.mem_range.1 (h.subset (List.mem_append_left _ hi))

/-- Every draw of the options gives an index, and from a round on they come in rounds. -/
theorem Variety.InRound.drawn (h : v.InRound options past) (hoptions : options ≠ [])
    (hon : v.enabled = true) (ss : List Stream) :
    (v.drawn options (ss.map (.pick options))).length = ss.length ∧
      InRounds options.length (past ++ v.drawn options (ss.map (.pick options))) := by
  induction ss generalizing v past with
  | nil =>
    refine ⟨rfl, ?_⟩
    have hnone : v.drawn options [] = [] := rfl
    rw [List.map_nil, hnone, List.append_nil]
    exact h.inRounds hoptions
  | cons s ss ih =>
    obtain ⟨i, rest, -, hperm, hdrawn⟩ := exists_drawn hoptions _ rfl s
    rw [List.map_cons, hdrawn hon, List.length_cons, List.length_cons]
    rcases h.next hperm with ⟨hround, hnext⟩ | hnext
    · obtain ⟨hlength, hrounds⟩ := ih hnext hon
      refine ⟨congrArg (· + 1) hlength, ?_⟩
      rw [List.nil_append] at hrounds
      rw [← List.singleton_append, ← List.append_assoc]
      exact hrounds.cons hround
    · obtain ⟨hlength, hrounds⟩ := ih hnext hon
      refine ⟨congrArg (· + 1) hlength, ?_⟩
      rwa [List.append_assoc, List.singleton_append] at hrounds

/-- Cut into blocks of `n`, the rounds are the full blocks. -/
theorem InRounds.block (h : InRounds n is) (k : Nat) :
    ((blockOf n k is).length = n → (blockOf n k is).Perm (List.range n)) ∧
      (blockOf n k is).Nodup ∧ ∀ i ∈ blockOf n k is, i < n := by
  obtain ⟨rounds, rest, rfl, hrounds, hlt, hnodup, hrest⟩ := h
  unfold blockOf
  induction rounds generalizing k with
  | nil =>
    cases k with
    | zero =>
      rw [List.flatten_nil, List.nil_append, Nat.zero_mul, List.drop_zero,
        List.take_of_length_le (Nat.le_of_lt hlt)]
      exact ⟨fun hfull => absurd hfull (Nat.ne_of_lt hlt), hnodup, hrest⟩
    | succ k =>
      have hbeyond : rest.length ≤ (k + 1) * n :=
        Nat.le_trans (Nat.le_of_lt hlt) (Nat.le_mul_of_pos_left n k.succ_pos)
      rw [List.flatten_nil, List.nil_append, List.drop_of_length_le hbeyond, List.take_nil]
      exact ⟨fun hfull => absurd hfull (Nat.ne_of_lt (Nat.zero_lt_of_lt hlt)), .nil, nofun⟩
  | cons r rounds ih =>
    obtain ⟨hr, hrounds⟩ := List.forall_mem_cons.1 hrounds
    have hlength : r.length = n := hr.length_eq.trans List.length_range
    rw [List.flatten_cons, List.append_assoc]
    cases k with
    | zero =>
      rw [Nat.zero_mul, List.drop_zero, List.take_left' hlength]
      exact ⟨fun _ => hr, hr.nodup_iff.2 List.nodup_range, fun i hi => List.mem_range.1 (hr.subset hi)⟩
    | succ k =>
      rw [Nat.succ_mul, Nat.add_comm, ← List.drop_drop, List.drop_left' hlength]
      exact ih k hrounds

end Rounds

/-! ## Varied uses -/

/-- How a fresh variety serves some options while it is used for whatever else: each of their enabled picks
returns an index; in blocks of as many as there are options the indices are all different, so that a full
block is a permutation; and with all other uses left out, the same indices are returned. -/
structure Varies (options : List String) (us : List Use) (is : List Nat) : Prop where
  every : is.length = (streamsOf options true us).length
  full : ∀ k, (blockOf options.length k is).length = options.length →
    (blockOf options.length k is).Perm (List.range options.length)
  partly : ∀ k, (blockOf options.length k is).Nodup ∧
    ∀ i ∈ blockOf options.length k is, i < options.length
  alone : is = Variety.drawn {} options ((streamsOf options true us).map (.pick options))

/-- Whatever a fresh variety is used for, it varies all options. -/
theorem varied_uses (us : List Use) {options : List String} (hoptions : options ≠ []) :
    Varies options us (Variety.drawn {} options us) := by
  have hfresh : ({} : Variety).InRound options [] := .refl _
  have halone : Variety.drawn {} options us = _ := Variety.drawn_eq (w := {}) hoptions rfl rfl us
  obtain ⟨hlength, hrounds⟩ := hfresh.drawn hoptions rfl (streamsOf options true us)
  rw [List.nil_append, ← halone] at hrounds
  rw [← halone] at hlength
  exact ⟨hlength, fun k => (hrounds.block k).1, fun k => (hrounds.block k).2, halone⟩

/-- Words that are all zero. -/
def zeros : Stream :=
  ⟨fun _ => .replicate 16 0, 0, []⟩

/-- Two planets are picked in turn, with a moon and an unvaried pick in between. -/
theorem varies_planets :
    Varies ["Aris", "Boro"] [.pick ["Aris", "Boro"] zeros, .pick ["Dione"] zeros, .switch false,
      .pick ["Aris", "Boro"] zeros, .switch true, .pick ["Aris", "Boro"] zeros] [0, 1] :=
  varied_uses _ (by decide)

end SpaceOpera.Chance
