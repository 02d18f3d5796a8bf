import Mathlib.Data.List.TakeDrop
import Mathlib.Data.List.TakeWhile
import SpaceOpera.Proofs.Prose.Straightening
import SpaceOpera.Proofs.Story.Casting
import SpaceOpera.Proofs.Story.Shape
import SpaceOpera.Serial.Chapter

/-!
# Every scene has a word

A look at the setting has an `a` in it.  Whatever is done to the text on the way to the page, capitals,
marks, joints, trimmed ends and proofreading, keeps an `a` or makes it an `A`, and a word with one of these
is counted.
-/

namespace SpaceOpera

open List (Forall₂)
open Text

/-- There is an `a` or an `A` in the text. -/
def HasA (text : List Char) : Prop :=
  'a' ∈ text ∨ 'A' ∈ text

section Letters

variable {text : List Char} {c : Char}

theorem HasA.mono {other : List Char} (h : HasA text) (ha : 'a' ∈ text → 'a' ∈ other)
    (hA : 'A' ∈ text → 'A' ∈ other) : HasA other :=
  h.imp ha hA

theorem HasA.append_left (h : HasA text) (more : List Char) : HasA (text ++ more) :=
  h.mono (List.mem_append_left more) (List.mem_append_left more)

theorem HasA.append_right (h : HasA text) (more : List Char) : HasA (more ++ text) :=
  h.mono (List.mem_append_right more) (List.mem_append_right more)

theorem hasA_intercalate (sep : List Char) {texts : List (List Char)} (h : text ∈ texts)
    (k : HasA text) : HasA (sep.intercalate texts) := by
  induction texts with
  | nil => exact absurd h List.not_mem_nil
  | cons first texts ih =>
    cases texts with
    | nil =>
      obtain rfl := List.mem_singleton.1 h
      simpa using k
    | cons second texts =>
      rw [List.intercalate_cons_cons]
      rcases List.mem_cons.1 h with rfl | h
      · exact (k.append_left sep).append_left _
      · exact (ih h).append_right _

/-- A capital leaves an `a` or makes it an `A`. -/
theorem HasA.capitalizeChars (h : HasA text) : HasA (capitalizeChars text) := by
  unfold Text.capitalizeChars
  rw [List.span_eq_takeWhile_dropWhile]
  have hsplit := List.takeWhile_append_dropWhile (p := fun c => !isAlphabetic c) (l := text)
  generalize text.takeWhile _ = before, text.dropWhile _ = rest at hsplit
  subst hsplit
  cases rest with
  | nil => simpa using h
  | cons c after =>
    dsimp only
    have hpart : HasA before ∨ HasA [c] ∨ HasA after := by
      simp only [HasA, List.mem_append, List.mem_cons, List.not_mem_nil, or_false] at h ⊢
      tauto
    rcases hpart with hbefore | hc | hafter
    · exact (hbefore.append_left _).append_left _
    · have hupper : HasA (toUpper c) := by
        rcases hc with hc | hc
        · rw [← List.mem_singleton.1 hc]
          exact Or.inr (by decide)
        · rw [← List.mem_singleton.1 hc]
          exact Or.inr (by decide)
      exact (hupper.append_right _).append_left _
    · exact hafter.append_right _

theorem mem_trimEnd (hc : isBlank c = false) (h : c ∈ text) : c ∈ trimEnd text := by
  unfold trimEnd
  rw [List.mem_reverse]
  rw [← List.mem_reverse, ← List.takeWhile_append_dropWhile (p := isBlank) (l := text.reverse),
    List.mem_append] at h
  rcases h with h | h
  · exact absurd (hc.symm.trans (List.mem_takeWhile_imp h)) Bool.false_ne_true
  · exact h

theorem HasA.proofread {s : String} (h : HasA s.toList) : HasA (Prose.proofread s).toList := by
  have hmem : ∀ c, Prose.straightQuote c = c → c ∈ s.toList → c ∈ (Prose.proofread s).toList :=
    fun c hc hs => (Prose.proofread_perm s).mem_iff.2 (List.mem_map.2 ⟨c, hs, hc⟩)
  exact h.mono (hmem 'a' (by decide)) (hmem 'A' (by decide))

/-- What is not blank stands in a word. -/
theorem exists_word (hc : isBlank c = false) (h : c ∈ text) : ∃ w ∈ words text, c ∈ w := by
  have hpiece : ∃ p ∈ pieces isBlank text, c ∈ p := by
    induction text with
    | nil => exact absurd h List.not_mem_nil
    | cons d text ih =>
      rw [pieces_cons]
      rcases List.mem_cons.1 h with rfl | h
      · rw [if_neg (by simp [hc])]
        cases pieces isBlank text with
        | nil => exact ⟨_, List.mem_cons_self, List.mem_cons_self⟩
        | cons p ps => exact ⟨_, List.mem_cons_self, List.mem_cons_self⟩
      · obtain ⟨p, hp, hcp⟩ := ih h
        split
        · exact ⟨p, List.mem_cons_of_mem _ hp, hcp⟩
        · generalize pieces isBlank text = ps at hp
          cases ps with
          | nil => exact absurd hp List.not_mem_nil
          | cons q ps =>
            rcases List.mem_cons.1 hp with rfl | hp
            · exact ⟨_, List.mem_cons_self, List.mem_cons_of_mem d hcp⟩
            · exact ⟨p, List.mem_cons_of_mem _ hp, hcp⟩
  obtain ⟨p, hp, hcp⟩ := hpiece
  refine ⟨p, List.mem_filter.2 ⟨hp, ?_⟩, hcp⟩
  simp [List.ne_nil_of_mem hcp]

/-- A text with an `a` in it has a word that counts. -/
theorem wordCount_pos {s : String} (h : HasA s.toList) : 0 < Prose.wordCount s := by
  have hlayout : ∀ w ∈ Prose.layoutWords, ¬HasA w.toList := by unfold HasA; decide
  obtain ⟨c, hc, hcs⟩ : ∃ c, (c = 'a' ∨ c = 'A') ∧ c ∈ s.toList :=
    h.elim (fun h => ⟨_, Or.inl rfl, h⟩) fun h => ⟨_, Or.inr rfl, h⟩
  have hblank : isBlank c = false := by rcases hc with rfl | rfl <;> decide
  obtain ⟨w, hw, hcw⟩ := exists_word hblank hcs
  unfold Prose.wordCount
  refine List.length_pos_of_mem (List.mem_filter.2 ⟨hw, ?_⟩)
  rw [Bool.not_eq_true', ← Bool.not_eq_true, List.contains_iff_mem]
  intro hlaid
  refine hlayout _ hlaid ?_
  rw [String.toList_ofList]
  rcases hc with rfl | rfl
  · exact Or.inl hcw
  · exact Or.inr hcw

end Letters

/-! ## Telling -/

section Telling

variable {k : StoryKind} {cs : List StoryNode} {texts : List String} {text : String}
  {n c : StoryNode}

theorem HasA.capitalize (h : HasA text.toList) : HasA (Text.capitalize text).toList := by
  unfold Text.capitalize
  rw [String.toList_ofList]
  exact h.capitalizeChars

theorem hasA_intercalate_text (sep : String) (h : text ∈ texts) (k : HasA text.toList) :
    HasA (sep.intercalate texts).toList := by
  rw [String.toList_intercalate]
  exact hasA_intercalate _ (List.mem_map_of_mem h) k

/-- Texts of the children that are laid out lose nothing. -/
theorem hasA_layOut (hk : k.event? = none) (hlength : cs.length = texts.length)
    (h : text ∈ texts) (ha : HasA text.toList) : HasA (Prose.layOut k cs texts).toList := by
  cases k with
  | event e => cases hk
  | story => exact hasA_intercalate_text _ h ha
  | conjoined => exact hasA_intercalate_text _ h ha
  | scene => exact hasA_intercalate_text _ (List.mem_map_of_mem h) ha.capitalize
  | eventSequence => exact hasA_intercalate_text _ (List.mem_map_of_mem h) ha.capitalize
  | paragraph =>
    have hsentence : ∃ s ∈ List.zipWith Prose.sentence cs texts, HasA s.toList := by
      induction texts generalizing cs with
      | nil => exact absurd h List.not_mem_nil
      | cons first texts ih =>
        cases cs with
        | nil => cases hlength
        | cons c cs =>
          rcases List.mem_cons.1 h with rfl | h
          · refine ⟨_, List.mem_cons_self, ?_⟩
            rw [Prose.sentence, String.toList_append]
            exact ha.capitalize.append_left _
          · obtain ⟨s, hs, has⟩ := ih (Nat.succ.inj hlength) h
            exact ⟨s, List.mem_cons_of_mem _ hs, has⟩
    obtain ⟨s, hs, has⟩ := hsentence
    have hwhole : HasA ((List.zipWith Prose.sentence cs texts).flatMap String.toList) :=
      has.mono (fun h => List.mem_flatMap.2 ⟨s, hs, h⟩) fun h => List.mem_flatMap.2 ⟨s, hs, h⟩
    unfold Prose.layOut Prose.trimmed
    rw [String.toList_ofList, String.toList_join]
    exact hwhole.mono (mem_trimEnd (by decide)) (mem_trimEnd (by decide))

theorem renderAll_eq_mapM (cs : List StoryNode) : Prose.renderAll cs = cs.mapM Prose.renderStory := by
  induction cs with
  | nil => rfl
  | cons c cs ih => rw [Prose.renderAll, ih, List.mapM_cons]

theorem renderAll_ends {E : RenderError → Prop} {R : StoryNode → String → Prop}
    (h : ∀ c ∈ cs, Ends Varied E (R c) (Prose.renderStory c)) :
    Ends Varied E (Forall₂ R cs) (Prose.renderAll cs) :=
  renderAll_eq_mapM cs ▸ Ends.mapM cs h

/-- What is no event can be told if its children can, and has an `a` if one of them looks around. -/
theorem renderGroup_ends {E : RenderError → Prop} {a : Attributes} (hk : k.event? = none)
    (h : ∀ c ∈ cs, Ends Varied E (fun text => Look c → HasA text.toList) (Prose.renderStory c)) :
    Ends Varied E (fun text => Look ⟨k, a, cs⟩ → HasA text.toList)
      (Prose.renderStory ⟨k, a, cs⟩) := by
  rw [Prose.renderStory]
  · refine (renderAll_ends h).bind fun texts htexts => Ends.pure ?_
    rintro ⟨m, hm, hkind⟩
    rw [events_of_not_event (show Node.event? ⟨k, a, cs⟩ = none from hk)] at hm
    obtain ⟨c, hc, hm⟩ := List.mem_flatMap.1 hm
    obtain ⟨text, htext, hct⟩ := exists_of_mem_right htexts.flip hc
    exact hasA_layOut hk htexts.length_eq htext (hct ⟨m, hm, hkind⟩)
  · rintro e rfl
    cases hk

/-- Every event below the node is one that can be told. -/
def Tellable (n : StoryNode) : Prop :=
  ∀ m ∈ n.events, ∃ e, m.kind = .event e ∧ Performs e m

theorem renderBody_ends {ks : List StoryKind} (hks : ∀ k ∈ ks, k.isGroup = true) (hn : Body ks n)
    (h : Tellable n) :
    Ends Varied (fun _ => False) (fun text => Look n → HasA text.toList) (Prose.renderStory n) := by
  induction hn with
  | beat e a =>
    obtain ⟨e', hkind, hperforms⟩ := h ⟨.event e, a, []⟩ (by rw [events_beat]; exact List.mem_singleton_self _)
    obtain rfl := StoryKind.event.inj hkind
    rw [Prose.renderStory]
    refine (renderEvent_ends hperforms).imp (fun _ h => h) fun text htext => ?_
    rintro ⟨m, hm, hkind⟩
    rw [events_beat] at hm
    rw [List.mem_singleton.1 hm] at hkind
    exact Or.inl (htext (StoryKind.event.inj hkind))
  | @group k cs hk a _ ih =>
    have hevent := StoryKind.event?_of_isGroup (hks k hk)
    refine renderGroup_ends hevent fun c hc => ih c hc fun m hm => h m ?_
    rw [events_of_not_event (show Node.event? ⟨k, a, cs⟩ = none from hevent)]
    exact List.mem_flatMap.2 ⟨c, hc, hm⟩

/-- A scene whose events can be told can be told, and has a word if there is a look at its setting. -/
theorem writeScene_ends {ks : List StoryKind} (hks : ∀ k ∈ ks, k.isGroup = true)
    (hc : SceneOf ks c) (h : Tellable c) (hlook : Look c) :
    Ends Varied (fun _ => False) (fun text => 0 < Prose.wordCount text) (Serial.writeScene c) := by
  have hkind : c.kind.event? = none := by rw [hc.kind]; rfl
  have hbody := hc.body
  have hevents := hc.events_eq
  obtain ⟨k, a, cs⟩ := c
  unfold Serial.writeScene
  refine (renderGroup_ends hkind fun d hd => renderBody_ends hks (hbody d hd) fun m hm => h m ?_).bind
    fun text htext => Ends.pure (wordCount_pos (htext hlook).proofread)
  rw [hevents]
  exact List.mem_flatMap.2 ⟨d, hd, hm⟩

end Telling

end SpaceOpera
