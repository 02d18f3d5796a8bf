import SpaceOpera.Proofs.World.Described

/-!
# Names that show nothing

A description is refused if a name in it is blank.  A reader does not see the name as it is given, though, but with
the title of a rank wherever it says `{rank}`, and with nothing there if its bearer has no rank.  A name that is
`Vacant`, made of blanks and of such places alone, is let through, and shows as blanks where there is no rank
(`mutiny_unnamed`).  No other name in a world that is built does (`build_shows`).
-/

namespace SpaceOpera

open List (Forall₂)

/-! ## Texts with places to fill -/

namespace Text

/-- A text of blanks and of places to fill, each of which is written as the mark. -/
inductive Vacant (mark : List Char) : List Char → Prop
  | nil : Vacant mark []
  | blank {c : Char} {text : List Char} (hc : isBlank c = true) (h : Vacant mark text) :
      Vacant mark (c :: text)
  | place {text : List Char} (h : Vacant mark text) : Vacant mark (mark ++ text)

section Places

variable {mark needle replacement text rest : List Char} {first c : Char}

theorem Vacant.of_found (hfirst : isBlank first = false)
    (hfound : dropFront? (first :: needle) text = some rest) (h : Vacant (first :: needle) text) :
    Vacant (first :: needle) rest := by
  rw [dropFront?_eq_some_iff] at hfound
  cases h with
  | nil => cases hfound
  | blank hc _ =>
    obtain ⟨rfl, -⟩ := List.cons.inj hfound
    exact absurd hc (by rw [hfirst]; exact Bool.false_ne_true)
  | place h => exact List.append_cancel_left hfound ▸ h

theorem Vacant.of_missed (hmissed : dropFront? mark (c :: text) = none)
    (h : Vacant mark (c :: text)) : isBlank c = true ∧ Vacant mark text := by
  generalize hall : c :: text = all at h hmissed
  cases h with
  | nil => cases hall
  | blank hc h =>
    obtain ⟨rfl, rfl⟩ := List.cons.inj hall
    exact ⟨hc, h⟩
  | place h =>
    rw [dropFront?_eq_some_iff.2 rfl] at hmissed
    cases hmissed

/-- Filled in, a text is blank exactly if it had only blanks and places, and the places, if there are any,
are filled with blanks. -/
theorem substituteChars_blank_iff (hfirst : isBlank first = false) :
    (substituteChars first needle replacement text).all isBlank = true ↔
      Vacant (first :: needle) text ∧
        (replacement.all isBlank = true ∨ text.all isBlank = true) := by
  fun_induction substituteChars first needle replacement text with
  | case1 => exact iff_of_true rfl ⟨.nil, .inr rfl⟩
  | case2 c text rest hfound ih =>
    -- The mark does not begin with a blank, so a text that has one in front is not blank.
    have hmarked : (c :: text).all isBlank = false := by
      rw [dropFront?_eq_some_iff.1 hfound, List.cons_append, List.all_cons, hfirst, Bool.false_and]
    rw [List.all_append, Bool.and_eq_true, ih, hmarked]
    constructor
    · rintro ⟨hfill, hrest, -⟩
      rw [dropFront?_eq_some_iff.1 hfound]
      exact ⟨.place hrest, .inl hfill⟩
    · rintro ⟨h, hfill | hblank⟩
      · exact ⟨hfill, h.of_found hfirst hfound, .inl hfill⟩
      · cases hblank
  | case3 c text hmissed ih =>
    rw [List.all_cons, Bool.and_eq_true, ih, List.all_cons, Bool.and_eq_true]
    constructor
    · rintro ⟨hc, hrest, hblank⟩
      exact ⟨.blank hc hrest, hblank.imp_right fun hblank => ⟨hc, hblank⟩⟩
    · rintro ⟨h, hblank⟩
      obtain ⟨hc, hrest⟩ := h.of_missed hmissed
      exact ⟨hc, hrest, hblank.imp_right And.right⟩

theorem isBlankText_substitute_iff {s mark replacement : String}
    (hmark : mark.toList = first :: needle) (hfirst : isBlank first = false) :
    isBlankText (substitute s mark replacement) = true ↔
      Vacant mark.toList s.toList ∧
        (isBlankText replacement = true ∨ isBlankText s = true) := by
  unfold substitute isBlankText
  rw [hmark]
  dsimp only
  rw [String.toList_ofList]
  exact substituteChars_blank_iff hfirst

end Places

end Text

/-! ## Names and ranks -/

theorem Rank.isBlankText_title (r : Rank) : Text.isBlankText r.title = false := by
  cases r <;> decide

/-- A name that is not blank shows as blanks exactly if only a rank could fill it and there is none. -/
theorem Object.blank_nameVariant_iff {o : Object} {i : Nat} (hi : i < o.names.length)
    (hgiven : Text.isBlankText o.names[i] = false) :
    Text.isBlankText (o.nameVariant i) = true ↔
      o.rank = none ∧ Text.Vacant "{rank}".toList o.names[i].toList := by
  unfold Object.nameVariant
  rw [List.getD_eq_getElem?_getD, List.getElem?_eq_getElem hi, Option.getD_some,
    Text.isBlankText_substitute_iff rfl (by decide), hgiven]
  cases o.rank with
  | none => simp [Text.isBlankText]
  | some r => simp [r.isBlankText_title]

/-- Its names are well given, and if it has a rank it is one of the cast. -/
structure Object.Listed (cast : List Object) (o : Object) : Prop where
  named : WellNamed o.names
  ranked : o.rank ≠ none → o ∈ cast

section Worlds

variable {spec : WorldSpec} {w : World} {s : SettingSpec} {t : ThingSpec} {o : Object}
  {outside : Option Object} {cast : List Object} {rolled : List Traits} {draws left : Context}

theorem Object.Listed.of_unranked (hnamed : WellNamed o.names) (hrank : o.rank = none) :
    o.Listed cast :=
  ⟨hnamed, fun h => absurd hrank h⟩

theorem ThingSpec.listed (h : WellNamed t.names) : t.object.Listed cast :=
  .of_unranked h rfl

theorem SettingSpec.listed (h : ∀ names ∈ s.nameLists, WellNamed names)
    (ho : o ∈ (s.object outside).furnished) : o.Listed cast := by
  obtain ⟨hnames, hroof, hnearby⟩ := SettingSpec.named_iff.1 h
  rcases List.mem_cons.1 ho with rfl | ho
  · exact .of_unranked hnames rfl
  rcases List.mem_cons.1 ho with rfl | ho
  · exact ThingSpec.listed hroof
  · obtain ⟨t, ht, rfl⟩ := List.mem_map.1 ho
    exact ThingSpec.listed (hnearby t ht)

theorem Enlisted.made {names : String → Object → Prop} {cs : List CharacterSpec}
    {ts : List Traits} {os : List Object} (h : Enlisted names cs ts os) :
    Forall₂ (fun c o => ∃ home traits, o = c.object home traits) cs os := by
  induction h with
  | nil => exact .nil
  | given _ _ _ ih | rolled _ _ _ ih => exact .cons ⟨_, _, rfl⟩ ih

/-- A duty has a name, whatever it is about. -/
theorem wellNamed_errand {errand : String} (h : Text.isBlankText errand = false) (what : String) :
    WellNamed [errand ++ what] := by
  refine ⟨List.cons_ne_nil _ _, List.forall_mem_singleton.2 ?_⟩
  unfold Text.isBlankText at h ⊢
  rw [String.toList_append, List.all_append, h, Bool.false_and]

theorem WorldSpec.Describes.listed (h : spec.Describes rolled w)
    (hnamed : ∀ names ∈ spec.nameLists, WellNamed names) (ho : o ∈ w.mentions) :
    o.Listed (w.protagonists ++ w.antagonists) := by
  obtain ⟨hsettings, hcast, hgoons, hmacguffins⟩ := WorldSpec.named_iff.1 hnamed
  rcases mem_mentions_iff.1 ho with
    ⟨p, hp, ho⟩ | ho | ⟨m, hm, ho⟩ | ho | ho | ⟨m, -, rfl⟩ | ⟨m, -, rfl⟩
  · obtain ⟨s, hs, outside, -, rfl⟩ := exists_of_mem_right h.settings hp
    exact SettingSpec.listed (hsettings s hs) ho
  · obtain ⟨c, hc, home, traits, rfl⟩ := exists_of_mem_right h.cast.made ho
    exact ⟨(CharacterSpec.named_iff.1 (hcast c hc)).1, fun _ => ho⟩
  · obtain ⟨c, hc, home, traits, rfl⟩ := exists_of_mem_right h.cast.made hm
    obtain ⟨t, ht, rfl⟩ := Option.map_eq_some_iff.1 ho
    exact ThingSpec.listed ((CharacterSpec.named_iff.1 (hcast c hc)).2 t ht)
  · obtain ⟨t, ht, rfl⟩ := List.mem_map.1 (h.goons ▸ ho)
    exact ThingSpec.listed (hgoons t ht)
  · obtain ⟨t, ht, rfl⟩ := List.mem_map.1 (h.macguffins ▸ ho)
    exact ThingSpec.listed (hmacguffins t ht)
  · exact .of_unranked (wellNamed_errand (by decide) _) rfl
  · exact .of_unranked (wellNamed_errand (by decide) _) rfl

/-- In a world that is built, everything has names, and a name shows nothing but blanks exactly if it is vacant and
its bearer has no rank.  Ranks are for the cast alone. -/
theorem build_shows (h : spec.build.run.run draws = (.ok w, left)) (ho : o ∈ w.mentions) :
    o.names ≠ [] ∧
      (∀ i, ∀ hi : i < o.names.length, Text.isBlankText (o.nameVariant i) = true ↔
        o.rank = none ∧ Text.Vacant "{rank}".toList o.names[i].toList) ∧
      (o.rank ≠ none → o ∈ w.protagonists ++ w.antagonists) := by
  obtain ⟨hacceptable, rolled, hdescribes, -⟩ := WorldSpec.build_eq_ok h
  obtain ⟨⟨hne, hgiven⟩, hranked⟩ := hdescribes.listed hacceptable.named ho
  exact ⟨hne, fun i hi => Object.blank_nameVariant_iff hi (hgiven _ (List.getElem_mem hi)), hranked⟩

/-- The world of an acceptable description holds everybody in it, by the same names and with the same rank. -/
theorem WorldSpec.Acceptable.exists_world (h : spec.Acceptable) (draws : Context) :
    ∃ w left, spec.build.run.run draws = (.ok w, left) ∧ ∀ c ∈ spec.cast,
      ∃ o ∈ w.protagonists ++ w.antagonists, o.names = c.names ∧ o.rank = c.rank := by
  obtain ⟨w, hw, -⟩ := (h.build_ends draws trivial).1.ok_of_no_error
  have hrun : spec.build.run.run draws = (.ok w, (spec.build.run.run draws).2) := Prod.ext hw rfl
  obtain ⟨-, rolled, hdescribes, -⟩ := WorldSpec.build_eq_ok hrun
  refine ⟨w, _, hrun, fun c hc => ?_⟩
  obtain ⟨o, ho, home, traits, rfl⟩ := exists_of_mem_left hdescribes.cast.made hc
  exact ⟨_, ho, rfl, rfl⟩

/-- A skiff with an ensign and a mutineer who both go by their ranks, though he has none any more. -/
def mutiny : WorldSpec :=
  { settings :=
      [{ key := "skiff", names := ["skiff"], roof := { names := ["awning"] }
         nearby := [{ names := ["mast"] }] }]
    protagonists :=
      [{ names := ["{rank} Wren", "{rank}"], gender := .feminine, archetype := .lead
         rank := some .ensign, home := "skiff" }]
    antagonists :=
      [{ names := ["{rank} Voss", "{rank}"], gender := .masculine, archetype := .villain
         home := "skiff" }] }

theorem mutiny_acceptable : mutiny.Acceptable := by
  decide +kernel

/-- It tells the two on the skiff apart, who have the same other name: hers shows and his does not. -/
theorem build_shows_mutiny : ∃ w left, mutiny.build.run.run (.ofSeed 7) = (.ok w, left) ∧
    ∀ c ∈ mutiny.cast, ∃ o ∈ w.mentions, o.names = c.names ∧ o.rank = c.rank ∧ o.names ≠ [] ∧
      (∀ i, ∀ hi : i < o.names.length, Text.isBlankText (o.nameVariant i) = true ↔
        o.rank = none ∧ Text.Vacant "{rank}".toList o.names[i].toList) ∧
      (o.rank ≠ none → o ∈ w.protagonists ++ w.antagonists) := by
  obtain ⟨w, left, hbuild, hcast⟩ := mutiny_acceptable.exists_world (.ofSeed 7)
  refine ⟨w, left, hbuild, fun c hc => ?_⟩
  obtain ⟨o, ho, hnames, hrank⟩ := hcast c hc
  have hmentioned : o ∈ w.mentions := mem_mentions_iff.2 (.inr (.inl ho))
  exact ⟨o, hmentioned, hnames, hrank, build_shows hbuild hmentioned⟩

/-- The skiff makes a world, and yet a name in it shows nothing. -/
theorem mutiny_unnamed : ∃ w left, mutiny.build.run.run (.ofSeed 7) = (.ok w, left) ∧
    ∃ o ∈ w.protagonists ++ w.antagonists, ∃ i < o.names.length,
      Text.isBlankText (o.nameVariant i) = true := by
  obtain ⟨w, left, hbuild, hcast⟩ := mutiny_acceptable.exists_world (.ofSeed 7)
  obtain ⟨o, ho, hnames, hrank⟩ := hcast _ (List.mem_append_right _ List.mem_cons_self)
  have hnames : o.names = ["{rank} Voss", "{rank}"] := hnames
  have hlength : 1 < o.names.length := by rw [hnames]; decide
  have hshort : o.names[1] = "{rank}" := by simp only [hnames]; rfl
  refine ⟨w, left, hbuild, o, ho, 1, hlength, ?_⟩
  refine (Object.blank_nameVariant_iff hlength (by rw [hshort]; decide)).2 ⟨hrank, ?_⟩
  rw [hshort]
  exact .place .nil

end Worlds

end SpaceOpera
