import Mathlib.Algebra.Ring.Nat
import Mathlib.Data.List.Forall2
import Mathlib.Data.String.Basic
import SpaceOpera.Proofs.Prose.Straightening
import SpaceOpera.Prose.Render

/-!
# Words are counted the same before and after proofreading

Proofreading puts one word in the place of another and never joins two words or parts one.  Piece by piece a
proofread text is as it was, or both pieces have a character of their own besides dashes and number signs, so
that both are words that count (`Alike`).  The breaks between scenes hold no word that counts.
-/

namespace SpaceOpera

namespace Prose

open List (Forall₂ Perm)
open Text

/-! ## Pieces that count -/

/-- A piece that is counted as a word. -/
def isCounted (piece : List Char) : Bool :=
  !piece.isEmpty && !layoutWords.contains (String.ofList piece)

/-- A piece with a character that no layout word has. -/
def Loud (piece : List Char) : Prop :=
  ∃ c ∈ piece, c ≠ '-' ∧ c ≠ '#'

/-- Pieces that are equal, or that both count whatever else they are. -/
def SameWord (p q : List Char) : Prop :=
  p = q ∨ Loud p ∧ Loud q

/-- Texts whose pieces are the same words one by one. -/
def Alike (x y : List Char) : Prop :=
  Forall₂ SameWord (pieces isBlank x) (pieces isBlank y)

section Pieces

variable {p q x y : List Char} {c d : Char}

theorem Loud.isCounted (h : Loud p) : isCounted p = true := by
  have hlayout : (layoutWords.all fun w => w.toList.all fun c => c == '-' || c == '#') = true := by
    decide
  obtain ⟨c, hc, hdash, hsign⟩ := h
  unfold Prose.isCounted
  rw [Bool.and_eq_true, Bool.not_eq_true', Bool.not_eq_true', List.isEmpty_eq_false_iff]
  refine ⟨List.ne_nil_of_mem hc, Bool.eq_false_iff.2 fun hmem => ?_⟩
  rw [List.contains_iff_mem] at hmem
  have hquiet := List.all_eq_true.1 (List.all_eq_true.1 hlayout _ hmem) c
    (by rwa [String.toList_ofList])
  rw [Bool.or_eq_true, beq_iff_eq, beq_iff_eq] at hquiet
  exact hquiet.elim hdash hsign

theorem SameWord.isCounted_eq (h : SameWord p q) : isCounted p = isCounted q := by
  obtain rfl | ⟨hp, hq⟩ := h
  · rfl
  · rw [hp.isCounted, hq.isCounted]

theorem SameWord.append_left (h : SameWord p q) (front : List Char) :
    SameWord (front ++ p) (front ++ q) := by
  obtain rfl | ⟨⟨c, hc, hloud⟩, d, hd, hloud'⟩ := h
  · exact Or.inl rfl
  · exact Or.inr ⟨⟨c, List.mem_append_right front hc, hloud⟩, d, List.mem_append_right front hd, hloud'⟩

theorem Loud.append_right (h : Loud p) (more : List Char) : Loud (p ++ more) := by
  obtain ⟨c, hc, hloud⟩ := h
  exact ⟨c, List.mem_append_left more hc, hloud⟩

theorem wordCount_eq_countP (s : String) :
    wordCount s = (pieces isBlank s.toList).countP isCounted := by
  unfold wordCount words isCounted
  rw [List.filter_filter, List.countP_eq_length_filter]
  refine congrArg List.length (List.filter_congr fun p _ => ?_)
  rw [Bool.and_comm]

theorem countP_isCounted_eq {ps qs : List (List Char)} (h : Forall₂ SameWord ps qs) :
    ps.countP isCounted = qs.countP isCounted := by
  induction h with
  | nil => rfl
  | cons hpq _ ih => rw [List.countP_cons, List.countP_cons, hpq.isCounted_eq, ih]

/-- A blank ends a piece. -/
theorem pieces_append_cons (hc : isBlank c = true) (x y : List Char) :
    pieces isBlank (x ++ c :: y) = pieces isBlank x ++ pieces isBlank y := by
  induction x with
  | nil => rw [List.nil_append, pieces_cons, if_pos hc, pieces_nil, List.singleton_append]
  | cons d x ih =>
    rw [List.cons_append, pieces_cons, pieces_cons, ih]
    split
    · rfl
    · obtain ⟨p, ps, hps⟩ := List.exists_cons_of_ne_nil (pieces_ne_nil isBlank x)
      rw [hps]
      rfl

/-- A word runs on into the first piece of what follows it. -/
theorem pieces_append {word : List Char} (hword : ∀ c ∈ word, isBlank c = false)
    {ps : List (List Char)} (hy : pieces isBlank y = p :: ps) :
    pieces isBlank (word ++ y) = (word ++ p) :: ps := by
  induction word with
  | nil => exact hy
  | cons c word ih =>
    obtain ⟨hc, hword⟩ := List.forall_mem_cons.1 hword
    rw [List.cons_append, pieces_cons, ih hword, hc]
    rfl

end Pieces

/-! ## Texts alike -/

section Alike

variable {x y x' y' : List Char} {i : Inversion}

theorem Alike.refl (x : List Char) : Alike x x :=
  List.forall₂_same.2 fun _ _ => Or.inl rfl

theorem extendFirst_sameWord {ps qs : List (List Char)} (h : Forall₂ SameWord ps qs) (c : Char) :
    Forall₂ SameWord (extendFirst c ps) (extendFirst c qs) := by
  cases h with
  | nil => exact .cons (Or.inl rfl) .nil
  | cons hpq hrest => exact .cons (hpq.append_left [c]) hrest

/-- In front of texts alike a character makes no difference. -/
theorem Alike.cons (h : Alike x y) (c : Char) : Alike (c :: x) (c :: y) := by
  unfold Alike
  rw [pieces_cons, pieces_cons]
  split
  · exact .cons (Or.inl rfl) h
  · exact extendFirst_sameWord h c

theorem Alike.append_left (h : Alike x y) (front : List Char) : Alike (front ++ x) (front ++ y) := by
  induction front with
  | nil => exact h
  | cons c front ih => exact ih.cons c

/-- A word that counts whatever touches it, and that no blank parts. -/
structure IsWord (word : List Char) : Prop where
  unbroken : ∀ c ∈ word, isBlank c = false
  loud : Loud word

/-- One such word makes as much of a text as another. -/
theorem IsWord.alike {word word' : List Char} (h : IsWord word) (h' : IsWord word')
    (hxy : Alike x y) : Alike (word ++ x) (word' ++ y) := by
  obtain ⟨p, ps, hx⟩ := List.exists_cons_of_ne_nil (pieces_ne_nil isBlank x)
  obtain ⟨q, qs, hy⟩ := List.exists_cons_of_ne_nil (pieces_ne_nil isBlank y)
  unfold Alike at hxy ⊢
  rw [hx, hy] at hxy
  rw [pieces_append h.unbroken hx, pieces_append h'.unbroken hy]
  exact .cons (Or.inr ⟨h.loud.append_right p, h'.loud.append_right q⟩) (List.forall₂_cons.1 hxy).2

theorem isWord_of_all {word : List Char}
    (h : (word.all (!isBlank ·) && word.any fun c => c != '-' && c != '#') = true) : IsWord word := by
  rw [Bool.and_eq_true, List.all_eq_true, List.any_eq_true] at h
  obtain ⟨hunbroken, c, hc, hloud⟩ := h
  rw [Bool.and_eq_true, bne_iff_ne, bne_iff_ne] at hloud
  exact ⟨fun d hd => Bool.not_eq_true' _ ▸ hunbroken d hd, c, hc, hloud⟩

theorem isWord_of_mem_inversions (hi : i ∈ inversions) : IsWord i.verb ∧ IsWord i.pronoun := by
  have hwords : ∀ i ∈ inversions, ∀ word ∈ [i.verb, i.pronoun],
      (word.all (!isBlank ·) && word.any fun c => c != '-' && c != '#') = true := by
    decide +kernel
  obtain ⟨hverb, hpronoun⟩ := List.forall_mem_cons.1 (hwords i hi)
  exact ⟨isWord_of_all hverb, isWord_of_all (hpronoun _ (List.mem_singleton_self _))⟩

/-- An occurrence that is turned still is two words: what touched the one touches the other. -/
theorem straightenFrom_alike (hverb : IsWord i.verb) (hpronoun : IsWord i.pronoun)
    (before : Option Char) (text : List Char) : Alike (straightenFrom i before text) text := by
  fun_induction straightenFrom i before text with
  | case1 => exact .refl []
  | case2 before c rest after hfound ih =>
    rw [Inversion.after?_eq_some_iff.1 hfound]
    split
    · rw [Inversion.straight, Inversion.inverted, List.append_assoc, List.append_assoc]
      exact hpronoun.alike hverb ((hverb.alike hpronoun ih).cons ' ')
    · exact ih.append_left i.inverted
  | case3 before c rest hfound ih => exact ih.cons c

/-- An apostrophe makes as much of a word as a backtick. -/
theorem straightQuote_alike (text : List Char) : Alike (text.map straightQuote) text := by
  have hquote : IsWord ['\''] := isWord_of_all (by decide)
  have htick : IsWord ['`'] := isWord_of_all (by decide)
  induction text with
  | nil => exact .refl []
  | cons c text ih =>
    rw [List.map_cons, straightQuote]
    split
    · rename_i hc
      exact hc ▸ hquote.alike htick ih
    · exact ih.cons c

end Alike

/-! ## Counts -/

section Counts

/-- Proofreading changes no count of words. -/
theorem wordCount_proofread (text : String) : wordCount (proofread text) = wordCount text := by
  rw [wordCount_eq_countP, wordCount_eq_countP]
  refine proofread_induction (P := fun t => (pieces isBlank t).countP isCounted =
    (pieces isBlank text.toList).countP isCounted)
    (countP_isCounted_eq (straightQuote_alike text.toList)) fun i hi t ht => ?_
  obtain ⟨hverb, hpronoun⟩ := isWord_of_mem_inversions hi
  exact (countP_isCounted_eq (straightenFrom_alike hverb hpronoun none t)).trans ht

/-- What stands between the line feeds at the ends of a scene break. -/
def breakRule : List Char := "\n- - - -\n".toList

theorem toList_append_sceneBreak (first second : String) :
    (first ++ sceneBreak ++ second).toList =
      first.toList ++ '\n' :: (breakRule ++ '\n' :: second.toList) := by
  have hbreak : sceneBreak.toList = '\n' :: (breakRule ++ ['\n']) := by decide
  simp only [String.toList_append, hbreak, List.append_assoc, List.cons_append, List.nil_append]

/-- The break between two scenes is no word, and parts those on either side. -/
theorem wordCount_append_sceneBreak (first second : String) :
    wordCount (first ++ sceneBreak ++ second) = wordCount first + wordCount second := by
  have hblank : isBlank '\n' = true := by decide
  have hrule : (pieces isBlank breakRule).countP isCounted = 0 := by decide
  simp only [wordCount_eq_countP, toList_append_sceneBreak, pieces_append_cons hblank,
    List.countP_append, hrule, Nat.zero_add]

theorem wordCount_intercalate (texts : List String) :
    wordCount (sceneBreak.intercalate texts) = (texts.map wordCount).sum := by
  induction texts with
  | nil => decide
  | cons first texts ih =>
    cases texts with
    | nil => simp
    | cons second texts =>
      rw [String.intercalate_cons_cons, wordCount_append_sceneBreak, ih]
      rfl

theorem utf8Len_perm {l l' : List Char} (h : l.Perm l') : String.utf8Len l = String.utf8Len l' := by
  induction h with
  | nil => rfl
  | cons c _ ih => rw [String.utf8Len_cons, String.utf8Len_cons, ih]
  | swap c d l =>
    simp only [String.utf8Len_cons]
    omega
  | trans _ _ ih ih' => exact ih.trans ih'

theorem utf8Len_straightQuote (l : List Char) :
    String.utf8Len (l.map straightQuote) = String.utf8Len l := by
  have hsize : ∀ c, (straightQuote c).utf8Size = c.utf8Size := by
    intro c
    unfold straightQuote
    split
    · rename_i hc
      rw [hc]
      decide
    · rfl
  induction l with
  | nil => rfl
  | cons c l ih => rw [List.map_cons, String.utf8Len_cons, String.utf8Len_cons, ih, hsize]

theorem length_proofread (text : String) : (proofread text).length = text.length := by
  rw [← String.length_toList, (proofread_perm text).length_eq, List.length_map, String.length_toList]

theorem utf8ByteSize_proofread (text : String) :
    (proofread text).utf8ByteSize = text.utf8ByteSize := by
  rw [← String.ofList_toList (s := proofread text), ← String.ofList_toList (s := text),
    String.utf8ByteSize_ofList, String.utf8ByteSize_ofList, String.ofList_toList]
  exact (utf8Len_perm (proofread_perm text)).trans (utf8Len_straightQuote text.toList)

end Counts

end Prose

end SpaceOpera
