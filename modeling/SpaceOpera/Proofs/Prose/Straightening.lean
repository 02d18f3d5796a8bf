import Mathlib.Data.List.Perm.Basic
import SpaceOpera.Prose.Proofread

/-!
# Which occurrences are straightened

The scan for an inversion reads a text as stretches: single characters, occurrences that are kept and
occurrences that are turned (`Reading`).  It turns an occurrence where no letter and no number touches it,
save that one which begins where another ends is not seen to be touched in front (`straighten_reading`).
Proofreading straightens one inversion after the other.  It only rearranges the text (`proofread_perm`), and
what an edge parts that belongs to no occurrence is straightened on its own (`straightenAll_append_cons`).
-/

namespace SpaceOpera.Prose

open List (Perm)

/-! ## The scan for one inversion -/

section Scan

variable {i : Inversion} {before : Option Char} {c : Char} {left right text : List Char}

theorem Inversion.straight_perm (i : Inversion) : i.straight.Perm i.inverted :=
  (List.perm_append_comm_assoc i.pronoun [' '] i.verb).trans <|
    (List.perm_append_comm.append_left [' ']).trans <|
    (List.perm_append_comm_assoc [' '] i.verb i.pronoun)

theorem Inversion.after?_nil (i : Inversion) : i.after? [] = none := by
  unfold after?
  cases i.verb <;> rfl

/-- Straightening rearranges the text. -/
theorem straightenFrom_perm (i : Inversion) (before : Option Char) (text : List Char) :
    (straightenFrom i before text).Perm text := by
  fun_induction straightenFrom i before text with
  | case1 => exact .refl _
  | case2 before c rest after hfound ih =>
    rw [Inversion.after?_eq_some_iff.1 hfound]
    refine Perm.append ?_ ih
    split
    · exact i.straight_perm
    · exact .refl _
  | case3 before c rest hfound ih => exact ih.cons c

/-- Where the scan meets an occurrence. -/
theorem straightenFrom_occurrence (h : i.after? text = some right) :
    straightenFrom i before text =
      (if isEdge before && isEdge right.head? then i.straight else i.inverted)
        ++ straightenFrom i none right := by
  cases text with
  | nil => exact absurd h (by rw [i.after?_nil]; nofun)
  | cons c text =>
    rw [straightenFrom]
    split
    · rename_i after hafter
      rw [Option.some.inj (hafter.symm.trans h)]
    · rename_i hnone
      cases hnone.symm.trans h

/-- Where the scan meets none. -/
theorem straightenFrom_plain (h : i.after? (c :: text) = none) :
    straightenFrom i before (c :: text) = c :: straightenFrom i (some c) text := by
  rw [straightenFrom]
  split
  · rename_i hsome
    cases hsome.symm.trans h
  · rfl

/-- Of what stands in front, only whether it is an edge matters. -/
theorem straightenFrom_congr {before' : Option Char} (h : isEdge before = isEdge before') :
    straightenFrom i before text = straightenFrom i before' text := by
  cases text with
  | nil => rw [straightenFrom, straightenFrom]
  | cons c text =>
    rw [straightenFrom, straightenFrom]
    split
    · rw [h]
    · rfl

/-- A text that lacks one of the characters of the inversion stays as it is. -/
theorem straightenFrom_of_not_mem (hc : c ∈ i.inverted) (h : c ∉ text) :
    straightenFrom i before text = text := by
  fun_induction straightenFrom i before text with
  | case1 => rfl
  | case2 before d rest after hfound ih =>
    rw [Inversion.after?_eq_some_iff.1 hfound] at h
    exact absurd (List.mem_append_left after hc) h
  | case3 before d rest hfound ih => rw [ih fun hrest => h (List.mem_cons_of_mem d hrest)]

/-- An occurrence does not reach over a character that the inversion lacks. -/
theorem Inversion.after?_append_cons (h : c ∉ i.inverted) (left right : List Char) :
    i.after? (left ++ c :: right) = (i.after? left).map (· ++ c :: right) := by
  cases hleft : i.after? left with
  | some rest =>
    rw [Option.map_some, after?_eq_some_iff, after?_eq_some_iff.1 hleft, List.append_assoc]
  | none =>
    refine Option.eq_none_iff_forall_ne_some.2 fun rest hrest => ?_
    have hwithin : ∀ more, left ≠ i.inverted ++ more := fun more hmore =>
      Option.some_ne_none more ((after?_eq_some_iff.2 hmore).symm.trans hleft)
    rw [after?_eq_some_iff, List.append_eq_append_iff] at hrest
    obtain ⟨more, hinverted, hmore⟩ | ⟨more, hleft, -⟩ := hrest
    · cases more with
      | nil => exact hwithin [] (by rw [hinverted, List.append_nil, List.append_nil])
      | cons d more =>
        obtain ⟨rfl, -⟩ := List.cons.inj hmore
        exact h (hinverted ▸ List.mem_append_right left List.mem_cons_self)
    · exact hwithin more hleft

/-- An edge that belongs to no occurrence parts the text in two that are straightened on their own. -/
theorem straightenFrom_append_cons (h : c ∉ i.inverted) (hedge : isEdge (some c) = true) :
    straightenFrom i before (left ++ c :: right) =
      straightenFrom i before left ++ c :: straightenFrom i none right := by
  fun_induction straightenFrom i before left with
  | case1 before =>
    have hnone : i.after? (c :: right) = none := by
      rw [← List.nil_append (c :: right), i.after?_append_cons h, i.after?_nil, Option.map_none]
    have hfront : isEdge (some c) = isEdge none := hedge
    rw [List.nil_append, straightenFrom_plain hnone, straightenFrom_congr hfront]
    rfl
  | case2 before d rest after hfound ih =>
    have hwhole : i.after? ((d :: rest) ++ c :: right) = some (after ++ c :: right) := by
      rw [i.after?_append_cons h, hfound, Option.map_some]
    have hbehind : isEdge (after ++ c :: right).head? = isEdge after.head? := by
      cases after with
      | nil => exact hedge
      | cons => rfl
    rw [straightenFrom_occurrence hwhole, hbehind, ih, List.append_assoc]
  | case3 before d rest hfound ih =>
    have hwhole : i.after? (d :: (rest ++ c :: right)) = none := by
      rw [← List.cons_append, i.after?_append_cons h, hfound, Option.map_none]
    rw [List.cons_append, straightenFrom_plain hwhole, ih, List.cons_append]

end Scan

/-! ## One inversion after the other -/

/-- The text with the inversions straightened in turn. -/
def straightenAll (is : List Inversion) (text : List Char) : List Char :=
  is.foldl (fun t i => straighten i t) text

section Turns

variable {is : List Inversion} {c : Char} {text : List Char} {s : String}

theorem straightenAll_cons (i : Inversion) (is : List Inversion) (text : List Char) :
    straightenAll (i :: is) text = straightenAll is (straighten i text) := rfl

theorem toList_proofread (s : String) :
    (proofread s).toList = straightenAll inversions (s.toList.map straightQuote) :=
  String.toList_ofList

/-- What holds of the text with straight apostrophes and outlasts each inversion holds of the proofread
text. -/
theorem proofread_induction {P : List Char → Prop} (hquotes : P (s.toList.map straightQuote))
    (hstraighten : ∀ i ∈ inversions, ∀ t, P t → P (straighten i t)) : P (proofread s).toList := by
  rw [toList_proofread]
  exact List.foldlRecOn inversions _ hquotes fun t ht i hi => hstraighten i hi t ht

/-- Proofreading rearranges the text with straight apostrophes. -/
theorem proofread_perm (s : String) : (proofread s).toList.Perm (s.toList.map straightQuote) :=
  proofread_induction (.refl _) fun i _ t ht => (straightenFrom_perm i none t).trans ht

theorem straightenAll_of_not_mem (h : ∀ i ∈ is, c ∈ i.inverted) (hc : c ∉ text) :
    straightenAll is text = text := by
  induction is with
  | nil => rfl
  | cons i is ih =>
    obtain ⟨hi, his⟩ := List.forall_mem_cons.1 h
    rw [straightenAll_cons, straighten, straightenFrom_of_not_mem hi hc, ih his]

theorem straightenAll_append_cons (h : ∀ i ∈ is, c ∉ i.inverted) (hedge : isEdge (some c) = true)
    (left right : List Char) :
    straightenAll is (left ++ c :: right) =
      straightenAll is left ++ c :: straightenAll is right := by
  induction is generalizing left right with
  | nil => rfl
  | cons i is ih =>
    obtain ⟨hi, his⟩ := List.forall_mem_cons.1 h
    have hone : straighten i (left ++ c :: right) = straighten i left ++ c :: straighten i right :=
      straightenFrom_append_cons hi hedge
    rw [straightenAll_cons, hone, ih his, straightenAll_cons, straightenAll_cons]

end Turns

/-! ## Readings -/

/-- What the scan for an inversion passes over at a time: a character at which no occurrence starts, an
occurrence that it keeps, or an occurrence that it turns. -/
inductive Stretch where
  | plain (c : Char)
  | kept
  | turned
deriving DecidableEq, Repr

namespace Stretch

/-- The stretch as it stands in the text. -/
def source (i : Inversion) : Stretch → List Char
  | plain c => [c]
  | kept | turned => i.inverted

/-- The stretch as it stands in the straightened text. -/
def outcome (i : Inversion) : Stretch → List Char
  | plain c => [c]
  | kept => i.inverted
  | turned => i.straight

end Stretch

/-- The text that is read as the stretches. -/
def sourceOf (i : Inversion) (ss : List Stretch) : List Char :=
  ss.flatMap (Stretch.source i)

/-- The straightened text of the stretches. -/
def outcomeOf (i : Inversion) (ss : List Stretch) : List Char :=
  ss.flatMap (Stretch.outcome i)

/-- Behind these stretches the scan takes a word to start: no letter and no number is there, or an occurrence
ends there. -/
def OpensWord (i : Inversion) (front : List Stretch) : Prop :=
  isEdge (sourceOf i front).getLast? = true ∨
    ∃ fronter, front = fronter ++ [.kept] ∨ front = fronter ++ [.turned]

/-- No letter and no number touches what stands between the stretches. -/
def Untouched (i : Inversion) (front behind : List Stretch) : Prop :=
  OpensWord i front ∧ isEdge (sourceOf i behind).head? = true

/-- Why the scan takes a stretch as it does, between those in front of it and those behind. -/
def Stretch.Fits (i : Inversion) (front behind : List Stretch) : Stretch → Prop
  | plain c => ¬i.inverted <+: c :: sourceOf i behind
  | kept => ¬Untouched i front behind
  | turned => Untouched i front behind

/-- Each of the stretches, behind those in front, is taken for its reason. -/
def Reading (i : Inversion) (front ss : List Stretch) : Prop :=
  ∀ pre s post, ss = pre ++ s :: post → s.Fits i (front ++ pre) post

section Readings

variable {i : Inversion} {front ss : List Stretch} {s : Stretch} {c : Char}

theorem opensWord_nil (i : Inversion) : OpensWord i [] := Or.inl rfl

theorem opensWord_plain (front : List Stretch) (c : Char) :
    OpensWord i (front ++ [.plain c]) ↔ isEdge (some c) = true := by
  unfold OpensWord sourceOf
  rw [List.flatMap_append, List.flatMap_singleton, Stretch.source, List.getLast?_concat]
  refine or_iff_left ?_
  rintro ⟨fronter, h | h⟩ <;> cases (List.append_inj' h rfl).2

theorem opensWord_kept (front : List Stretch) : OpensWord i (front ++ [.kept]) :=
  Or.inr ⟨front, Or.inl rfl⟩

theorem opensWord_turned (front : List Stretch) : OpensWord i (front ++ [.turned]) :=
  Or.inr ⟨front, Or.inr rfl⟩

theorem Reading.nil : Reading i front [] :=
  fun _ _ _ h => absurd h.symm (List.append_ne_nil_of_right_ne_nil _ (List.cons_ne_nil _ _))

theorem Reading.cons (hs : s.Fits i front ss) (hss : Reading i (front ++ [s]) ss) :
    Reading i front (s :: ss) := by
  intro pre t post hsplit
  cases pre with
  | nil =>
    obtain ⟨rfl, rfl⟩ := List.cons.inj hsplit
    rwa [List.append_nil]
  | cons u pre =>
    obtain ⟨rfl, hrest⟩ := List.cons.inj hsplit
    have hfits := hss pre t post hrest
    rwa [List.append_assoc] at hfits

/-- The scan reads a text as stretches; of those in front it knows whether they open a word. -/
theorem straightenFrom_reading (i : Inversion) (before : Option Char) (text : List Char)
    (h : isEdge before = true ↔ OpensWord i front) :
    ∃ ss, sourceOf i ss = text ∧ outcomeOf i ss = straightenFrom i before text ∧
      Reading i front ss := by
  fun_induction straightenFrom i before text generalizing front with
  | case1 before => exact ⟨[], rfl, rfl, .nil⟩
  | case2 before c rest after hfound ih =>
    rw [Inversion.after?_eq_some_iff.1 hfound]
    by_cases huntouched : (isEdge before && isEdge after.head?) = true
    · obtain ⟨ss, rfl, houtcome, hss⟩ := ih (iff_of_true rfl (opensWord_turned front))
      refine ⟨.turned :: ss, rfl, ?_, .cons ?_ hss⟩
      · rw [if_pos huntouched, ← houtcome]
        rfl
      · rw [Bool.and_eq_true, h] at huntouched
        exact huntouched
    · obtain ⟨ss, rfl, houtcome, hss⟩ := ih (iff_of_true rfl (opensWord_kept front))
      refine ⟨.kept :: ss, rfl, ?_, .cons ?_ hss⟩
      · rw [if_neg huntouched, ← houtcome]
        rfl
      · rw [Bool.and_eq_true, h] at huntouched
        exact huntouched
  | case3 before c rest hfound ih =>
    obtain ⟨ss, rfl, houtcome, hss⟩ := ih (opensWord_plain front c).symm
    refine ⟨.plain c :: ss, rfl, ?_, .cons ?_ hss⟩
    · rw [← houtcome]
      rfl
    · rintro ⟨more, hmore⟩
      cases hfound.symm.trans (Inversion.after?_eq_some_iff.2 hmore.symm)

/-- A straightened text is read as stretches: it has turned the occurrences that no letter and no number
touches, and all else it has kept.  The one occurrence that is turned though it is touched begins where
another ends. -/
theorem straighten_reading (i : Inversion) (text : List Char) :
    ∃ ss, sourceOf i ss = text ∧ outcomeOf i ss = straighten i text ∧
      ∀ front s behind, ss = front ++ s :: behind → s.Fits i front behind :=
  straightenFrom_reading i none text (iff_of_true rfl (opensWord_nil i))

/-- No occurrence in this text is untouched, and one is turned: the one that begins where the other ends. -/
theorem straighten_joined :
    let i : Inversion := ⟨"said".toList, "he".toList⟩
    straighten i "said hesaid he".toList = "said hehe said".toList ∧
      ¬∃ left right, left ++ i.inverted ++ right = "said hesaid he".toList ∧
        isEdge left.getLast? = true ∧ isEdge right.head? = true := by
  refine ⟨by decide +kernel, ?_⟩
  rintro ⟨left, right, htext, hleft, hright⟩
  have hplaces : ∀ n < 8, "said he".toList.isPrefixOf ("said hesaid he".toList.drop n) = true →
      (isEdge ("said hesaid he".toList.take n).getLast? &&
        isEdge ("said hesaid he".toList.drop (n + 7)).head?) = false := by
    decide
  have hlength : left.length + 7 + right.length = 14 := by
    have hwhole := congrArg List.length htext
    rwa [List.length_append, List.length_append] at hwhole
  have htouched := hplaces left.length (by omega)
  rw [← htext, List.append_assoc, List.drop_left, List.take_left, ← List.append_assoc,
    List.drop_left' (by simp [Inversion.inverted]), hleft, hright] at htouched
  exact absurd (htouched (List.isPrefixOf_iff_prefix.2 (List.prefix_append _ _))) (by decide)

end Readings

end SpaceOpera.Prose
