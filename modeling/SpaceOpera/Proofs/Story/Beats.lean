import SpaceOpera.Proofs.Story.Script
import SpaceOpera.Proofs.Tree.Flattening

/-!
# What developments are told by

Every development whose roles are filled is told, and by beats that suit their templates, whoever is drawn
for them.  So a plot of filled developments becomes a story without an error.
-/

namespace SpaceOpera

open Template (Guise)
open StoryNode (ofEvent sequence)

/-! ## Participants -/

section Participants

variable {I : Context → Prop} {E : PlotError → Prop} {p : Participants} {r : Role}
  {os : List Object}

theorem Participants.one_ends
    (h : ∃ v, p.node.get? r = some v ∧ ∃ o ∈ os, v = .object o) :
    Ends I E (· ∈ os) (liftM (p.one r) : Attempt PlotError Object) := by
  obtain ⟨_, hv, o, ho, rfl⟩ := h
  refine Ends.liftExcept ?_
  unfold Participants.one Node.objectIn
  rw [hv]
  exact ho

theorem Participants.setting_ends {s : Object} (h : p.node.setting? = some s) :
    Ends I E (· = s) (liftM (p.one .setting) : Attempt PlotError Object) := by
  refine Ends.liftExcept ?_
  unfold Participants.one
  unfold Node.setting? at h
  rw [h]
  rfl

theorem Participants.value_ends {v : Value} (h : p.node.get? r = some v) :
    Ends I E (· = v) (liftM (p.value r) : Attempt PlotError Value) := by
  refine Ends.liftExcept ?_
  unfold Participants.value
  rw [h]
  rfl

variable [Lasting I]

theorem Participants.any_ends (hne : p.node.membersOf r ≠ [])
    (h : ∀ o ∈ p.node.membersOf r, o ∈ os) : Ends I E (· ∈ os) (p.any r) := by
  unfold Participants.any
  refine (Ends.drawn (Roll.choose_yields _)).bind fun o ho => ?_
  rw [if_neg hne] at ho
  obtain ⟨a, ha, rfl⟩ := ho
  exact Ends.pure (h a ha)

theorem extractFor_ends {fits : Object → Bool} (h : ∃ o ∈ os, fits o = true) :
    Ends I E (fun r => r.1 ∈ os ∧ (∀ o ∈ r.2, o ∈ os) ∧ ∀ o ∈ os, fits o = false → o ∈ r.2)
      (extractFor p os fits) := by
  unfold extractFor
  refine (Ends.drawn (Roll.extract_yields os fits)).bind fun taken htaken => ?_
  obtain ⟨o | o, rest⟩ := taken
  · obtain ⟨a, ha, hfits⟩ := h
    have hnone := htaken.none rfl a ha
    rw [hfits] at hnone
    cases hnone
  · exact Ends.pure ⟨(htaken.taken o rfl).1, htaken.rest, htaken.kept⟩

/-- Where there is anyone, there is someone to take. -/
theorem extractAnyone_ends (h : os ≠ []) :
    Ends I E (fun r => r.1 ∈ os ∧ ∀ o ∈ r.2, o ∈ os) (extractFor p os fun _ => true) := by
  obtain ⟨o, ho⟩ := List.exists_mem_of_ne_nil _ h
  exact (extractFor_ends ⟨o, ho, rfl⟩).imp (fun _ he => he) fun _ hr => ⟨hr.1, hr.2.1⟩

end Participants

/-! ## Developments -/

section Developments

variable {w : World} {n : PlotNode} {r : Role} {I : Context → Prop} [Lasting I]
  {E : PlotError → Prop}

/-- Some of the protagonists take the role. -/
structure Node.Crewed (n : PlotNode) (w : World) (r : Role) : Prop where
  members : n.membersOf r ≠ []
  cast : ∀ o ∈ n.membersOf r, o ∈ w.protagonists
  group : ∃ g, n.get? r = some (.group g)

theorem Node.Fits.crewed (h : n.Fits w r .crew) : n.Crewed w r := by
  obtain ⟨_, hv, g, rfl, hg⟩ := h
  have hmembers : n.membersOf r = g.members := by
    unfold Node.membersOf
    rw [hv]
    rfl
  exact ⟨hmembers ▸ g.nonempty, fun o ho => hg o (hmembers ▸ ho), g, hv⟩

/-- The heroine is no one to fall for. -/
theorem isLead_of_isDreamboat {o : Object} (h : o.isDreamboat = true) : o.isLead = false := by
  unfold Object.isDreamboat Object.plays at h
  unfold Object.isLead Object.plays
  cases hc : o.character? with
  | none => rfl
  | some c =>
    rw [hc, Option.any_some, decide_eq_true_eq] at h
    rw [Option.any_some, h]
    rfl

theorem rollRounds_yields (limit : Nat) : Yields I (fun _ => True) (rollRounds limit) := by
  induction limit with
  | zero => exact Yields.pure trivial
  | succ limit ih =>
    rw [rollRounds]
    refine (Roll.chance_yields 33).bind fun _ _ => Yields.ite (fun _ => Yields.pure trivial) fun _ => ?_
    exact ih.bind fun _ _ => Yields.pure trivial

theorem rollPose_yields :
    Yields I (fun e => e.takes [(.subject, .character)] = true) rollPose := by
  unfold rollPose
  refine (Roll.chance_yields 85).bind fun _ _ => Yields.ite (fun _ => Yields.pure rfl) fun _ => ?_
  refine (Roll.chance_yields 50).bind fun _ _ => ?_
  exact Yields.ite (fun _ => Yields.pure rfl) fun _ => Yields.pure rfl

theorem introduce_scripted (hw : w.Built) {seen os : List Object}
    (hseen : ∀ o ∈ seen, o ∈ w.protagonists) (hos : ∀ o ∈ os, o ∈ w.protagonists) :
    Yields I (Scripted w) (introduce seen os) := by
  induction os generalizing seen with
  | nil => exact Yields.pure scripted_nil
  | cons s rest ih =>
    obtain ⟨hs, hrest⟩ := List.forall_mem_cons.1 hos
    have hhero := suits_protagonist hw hs
    have hmore : ∀ o ∈ seen ++ [s], o ∈ w.protagonists :=
      List.forall_mem_append.2 ⟨hseen, List.forall_mem_singleton.2 hs⟩
    have hgreeting : ∀ other ∈ seen, Scripted w [beatOn .greet s other] := fun other hother =>
      scripted_cons.2 ⟨script_beatOn hhero (suits_protagonist hw (hseen other hother)) rfl, scripted_nil⟩
    -- What comes after the pose and the greeting is the same whether there are any.
    have hafter : ∀ pose greeting : List StoryNode, Scripted w pose → Scripted w greeting →
        Yields I (Scripted w) (do
          let more ← introduce (seen ++ [s]) rest
          return pose ++ greeting ++ more) := by
      intro pose greeting hpose hgreeting
      refine (ih hmore hrest).bind fun more hscripted => Yields.pure ?_
      exact scripted_append.2 ⟨scripted_append.2 ⟨hpose, hgreeting⟩, hscripted⟩
    have hgreeted : ∀ (pose : List StoryNode) (greets : Bool), Scripted w pose →
        Yields I (Scripted w) (do
          let greeted ← if greets then Roll.choose seen else pure none
          let greeting := (greeted.map fun other => beatOn .greet s other).toList
          let more ← introduce (seen ++ [s]) rest
          return pose ++ greeting ++ more) := by
      intro pose greets hpose
      refine Yields.ite (fun _ => ?_) fun _ => hafter pose [] hpose scripted_nil
      refine (Roll.choose_yields seen).bind fun greeted hgreeted => ?_
      split at hgreeted
      · subst hgreeted
        exact hafter pose [] hpose scripted_nil
      · obtain ⟨other, hother, rfl⟩ := hgreeted
        exact hafter pose _ hpose (hgreeting other hother)
    have hposed : ∀ pose : List StoryNode, Scripted w pose → Yields I (Scripted w) (do
          let greets ← if seen.isEmpty then pure false else Roll.chance 66
          let greeted ← if greets then Roll.choose seen else pure none
          let greeting := (greeted.map fun other => beatOn .greet s other).toList
          let more ← introduce (seen ++ [s]) rest
          return pose ++ greeting ++ more) := by
      intro pose hpose
      refine Yields.ite (fun _ => hgreeted pose false hpose) fun _ => ?_
      exact (Roll.chance_yields 66).bind fun greets _ => hgreeted pose greets hpose
    rw [introduce]
    refine Yields.bind (P := fun _ => True) ?_ fun posed _ => Yields.ite (fun _ => ?_) fun _ => ?_
    · unfold certainOr
      exact Yields.ite (fun _ => Yields.pure trivial) fun _ => Roll.chance_yields 66
    · refine Yields.bind (P := Scripted w) (Yields.map rollPose_yields fun e he => ?_) hposed
      exact scripted_cons.2 ⟨script_beat hhero he, scripted_nil⟩
    · exact hposed [] scripted_nil

/-! ### At home -/

section Telling

variable (hw : w.Built) (hn : Filled w n)

include hw hn

theorem introduction_scripted (hd : n.development? = some .introduction) :
    Ends I E (Scripted w) (beatsOf ⟨n, .introduction⟩) := by
  have hcast := (hn.fits (r := .subject) (p := .crew) hd (by decide)).crewed
  unfold beatsOf
  refine (Ends.drawn (introduce_scripted hw (fun _ h => absurd h List.not_mem_nil) hcast.cast)).bind
    fun entrances hentrances => Ends.pure ?_
  simp only [scripted_append, scripted_each]
  exact ⟨fun s hs => script_beat (suits_protagonist hw (hcast.cast s hs)) rfl, hentrances⟩

theorem itemForeshadowed_scripted (hd : n.development? = some .itemForeshadowed) :
    Ends I E (Scripted w) (beatsOf ⟨n, .itemForeshadowed⟩) := by
  have hcrew := (hn.fits (r := .bystanders) (p := .crew) hd (by decide)).crewed
  unfold beatsOf
  refine Ends.bind (Participants.one_ends (hn.fits (p := .hero) hd (by decide)))
    fun holder hholder => ?_
  refine Ends.bind (Participants.one_ends (hn.fits (p := .item) hd (by decide))) fun item hitem => ?_
  refine Ends.bind (Participants.any_ends hcrew.members hcrew.cast) fun asker hasker => Ends.pure ?_
  have hholder := suits_protagonist hw hholder
  have hasker := suits_protagonist hw hasker
  have hitem := suits_mention (mentions_macguffin hitem)
  simp only [scripted_cons, scripted_nil, script_sequence, and_true]
  exact ⟨script_beatOn hholder hitem rfl, script_beatOn hasker hitem rfl,
    script_beatOn hholder hasker rfl⟩

theorem itemRecalled_scripted (hd : n.development? = some .itemRecalled) :
    Ends I E (Scripted w) (beatsOf ⟨n, .itemRecalled⟩) := by
  have hcrew := (hn.fits (r := .bystanders) (p := .crew) hd (by decide)).crewed
  unfold beatsOf
  refine Ends.bind (Participants.one_ends (hn.fits (p := .hero) hd (by decide)))
    fun holder hholder => ?_
  refine Ends.bind (Participants.one_ends (hn.fits (p := .item) hd (by decide))) fun item hitem => ?_
  refine Ends.bind (Participants.any_ends hcrew.members hcrew.cast) fun asker hasker => Ends.pure ?_
  have hitem := suits_mention (mentions_macguffin hitem)
  simp only [scripted_cons, scripted_nil, script_sequence, and_true]
  exact script_beatOnFor (suits_protagonist hw hasker) (suits_protagonist hw hholder) hitem rfl

theorem convalescence_scripted (hd : n.development? = some .convalescence) :
    Ends I E (Scripted w) (beatsOf ⟨n, .convalescence⟩) := by
  have hcast := (hn.fits (r := .subject) (p := .crew) hd (by decide)).crewed
  unfold beatsOf
  refine Ends.bind (Ends.drawn (Roll.extract_yields _ _)) fun taken htaken => ?_
  obtain ⟨lead, rest⟩ := taken
  refine Ends.bind (Ends.drawn (Roll.extract_yields _ _)) fun taken' htaken' => ?_
  obtain ⟨optimist, _⟩ := taken'
  refine Ends.pure (scripted_append.2 ⟨?_, ?_⟩)
  · cases lead with
    | none => exact scripted_nil
    | some lead =>
      cases optimist with
      | none => exact scripted_nil
      | some optimist =>
        have hmem := hcast.cast lead (htaken.taken lead rfl).1
        have hlead := suits_protagonist hw hmem
        have hoptimist := suits_protagonist hw
          (hcast.cast optimist (htaken.rest optimist (htaken'.taken optimist rfl).1))
        refine scripted_cons.2 ⟨script_beatOn hoptimist hlead rfl, ?_⟩
        split
        · rename_i hrank
          have hofficer : Guise.officer.Suits w lead :=
            ⟨lead, mentions_protagonist hmem, rfl, (hw.dweller lead (List.mem_append_left _ hmem)).character,
              hrank⟩
          simp only [scripted_cons, scripted_nil, and_true]
          exact ⟨script_beatOn hoptimist hofficer rfl, script_beatOn hlead hoptimist rfl,
            script_beatOn hofficer hoptimist rfl⟩
        · exact scripted_nil
  · simp only [scripted_each, script_sequence, scripted_cons, scripted_nil, and_true]
    intro s hs
    have hs := suits_protagonist hw (hcast.cast s hs)
    exact ⟨script_beat hs rfl, script_beat hs rfl⟩

omit [Lasting I] in
theorem drone_scripted (hd : n.development? = some .drone) :
    Ends I E (Scripted w) (beatsOf ⟨n, .drone⟩) := by
  unfold beatsOf
  refine Ends.bind (Participants.one_ends (hn.fits (p := .hero) hd (by decide))) fun s hs =>
    Ends.pure ?_
  have hs := suits_protagonist hw hs
  simp only [scripted_cons, scripted_nil, and_true]
  exact ⟨script_beat hs rfl, script_beat hs rfl, script_beat hs rfl, script_beat hs rfl⟩

omit [Lasting I] in
theorem contemplateItem_scripted (hd : n.development? = some .contemplateItem) :
    Ends I E (Scripted w) (beatsOf ⟨n, .contemplateItem⟩) := by
  unfold beatsOf
  refine Ends.bind (Participants.one_ends (hn.fits (p := .hero) hd (by decide))) fun s hs => ?_
  refine Ends.bind (Participants.one_ends (hn.fits (p := .thing) hd (by decide))) fun item hitem =>
    Ends.pure ?_
  have hs := suits_protagonist hw hs
  have hitem := suits_mention hitem
  simp only [scripted_cons, scripted_nil, and_true]
  exact ⟨script_beatOn hs hitem rfl, script_beatOn hs hitem rfl, script_beatOn hs hitem rfl,
    script_beat hs rfl⟩

/-! ### Taken away and brought back -/

theorem kidnapping_scripted (hd : n.development? = some .kidnapping) :
    Ends I E (Scripted w) (beatsOf ⟨n, .kidnapping⟩) := by
  have hcrew := (hn.fits (r := .bystanders) (p := .crew) hd (by decide)).crewed
  unfold beatsOf
  refine Ends.bind (Participants.one_ends (hn.fits (p := .villain) hd (by decide)))
    fun perp hperp => ?_
  refine Ends.bind (Participants.one_ends (hn.fits (p := .hero) hd (by decide)))
    fun abductee habductee => ?_
  refine Ends.bind (Participants.any_ends hcrew.members hcrew.cast) fun noticer hnoticer =>
    Ends.pure ?_
  have hduty := suits_mention (mentions_rescueDuty habductee)
  have hperp := suits_antagonist hw hperp
  have habductee := suits_protagonist hw habductee
  have hnoticer := suits_protagonist hw hnoticer
  have hcrew : ∀ b ∈ n.membersOf .bystanders, Guise.character.Suits w b :=
    fun b hb => suits_protagonist hw (hcrew.cast b hb)
  simp only [scripted_append, scripted_each, scripted_cons, scripted_nil, script_sequence, and_true,
    and_assoc]
  refine ⟨script_beat hperp rfl, script_beat hperp rfl, fun b hb => ?_,
    script_beatOn hnoticer hperp rfl, script_beat hperp rfl, script_beat hperp rfl,
    script_beatOn hperp habductee rfl, script_beatOn hperp habductee rfl, fun b hb => ?_⟩
  · rcases List.mem_append.1 hb with hb | hb
    · exact script_beat (hcrew b hb) rfl
    · exact List.mem_singleton.1 hb ▸ script_beat habductee rfl
  · exact ⟨script_beat (hcrew b hb) rfl, script_beat (hcrew b hb) rfl,
      script_beatOn (hcrew b hb) hduty rfl⟩

theorem locateAbductee_scripted (hd : n.development? = some .locateAbductee) :
    Ends I E (Scripted w) (beatsOf ⟨n, .locateAbductee⟩) := by
  have hcast := (hn.fits (r := .subject) (p := .crew) hd (by decide)).crewed
  obtain ⟨here, -, hhere⟩ := hn.setting
  unfold beatsOf
  refine Ends.bind (Participants.one_ends (hn.fits (p := .hero) hd (by decide)))
    fun abductee habductee => ?_
  refine Ends.bind (Participants.one_ends (hn.fits (p := .thing) hd (by decide)))
    fun location hlocation => ?_
  have habductee := suits_protagonist hw habductee
  have hlocation := suits_mention hlocation
  have hrest : ∀ (b : Object) (others : List Object), b ∈ w.protagonists →
      (∀ o ∈ others, o ∈ w.protagonists) → Ends I E (Scripted w) (do
        let taken ← (Roll.extract others fun _ => true : Roll (Option Object × List Object))
        let a := taken.1.getD b
        let setting ← Participants.one ⟨n, .locateAbductee⟩ .setting
        let goal : Event := if a.home.any (· == setting) then .setCourse else .weMustGoTo
        return [beatOn .weMustFindThem a abductee,
          (beatOn .locationHunch b abductee).set .object2 location, beatOn goal a location]) := by
    intro b others hb hothers
    refine Ends.bind (Ends.drawn (Roll.extract_yields _ _)) fun taken htaken => ?_
    refine Ends.bind (Participants.setting_ends hhere) fun setting _ => Ends.pure ?_
    have ha : taken.1.getD b ∈ w.protagonists := by
      cases htaken' : taken.1 with
      | none => exact hb
      | some a => exact hothers a (htaken.taken a htaken').1
    have ha := suits_protagonist hw ha
    simp only [scripted_cons, scripted_nil, and_true]
    refine ⟨script_beatOn ha habductee rfl,
      script_beatOnFor (suits_protagonist hw hb) habductee hlocation rfl, ?_⟩
    split
    · exact script_beatOn ha hlocation rfl
    · exact script_beatOn ha hlocation rfl
  refine Ends.bind (Ends.drawn (Roll.extract_yields _ _)) fun taken htaken => ?_
  have hothers : ∀ o ∈ taken.2, o ∈ w.protagonists := fun o ho => hcast.cast o (htaken.rest o ho)
  obtain ⟨lead | lead, others⟩ := taken
  · obtain ⟨o, ho⟩ := List.exists_mem_of_ne_nil _ hcast.members
    have hleft := List.ne_nil_of_mem (htaken.kept o ho (htaken.none rfl o ho))
    refine Ends.bind (extractAnyone_ends hleft) fun taken' htaken' => ?_
    exact hrest taken'.1 taken'.2 (hothers _ htaken'.1) fun o ho => hothers o (htaken'.2 o ho)
  · exact hrest lead others (hcast.cast lead (htaken.taken lead rfl).1) hothers

theorem wayBlocked_scripted (hd : n.development? = some .wayBlocked) :
    Ends I E (Scripted w) (beatsOf ⟨n, .wayBlocked⟩) := by
  have hcast := (hn.fits (r := .subject) (p := .crew) hd (by decide)).crewed
  unfold beatsOf
  refine Ends.bind (extractAnyone_ends hcast.members) fun taken htaken => ?_
  obtain ⟨a, others⟩ := taken
  refine Ends.bind (Ends.drawn (Roll.extract_yields _ _)) fun taken' htaken' => ?_
  obtain ⟨b?, _⟩ := taken'
  refine Ends.pure ?_
  have ha := suits_protagonist hw (hcast.cast a htaken.1)
  have hb : ∀ b ∈ b?.toList, Guise.character.Suits w b := fun b hb =>
    suits_protagonist hw (hcast.cast b (htaken.2 b (htaken'.taken b (Option.mem_toList.1 hb)).1))
  simp only [scripted_append, scripted_each, scripted_cons, scripted_nil, script_sequence, and_true,
    and_assoc]
  exact ⟨script_beat ha rfl, script_beat ha rfl,
    fun b h => ⟨script_beat (hb b h) rfl, script_beat (hb b h) rfl, script_beat (hb b h) rfl⟩,
    script_beat ha rfl, script_beat ha rfl⟩

theorem rescue_scripted (hd : n.development? = some .rescue) :
    Ends I E (Scripted w) (beatsOf ⟨n, .rescue⟩) := by
  have hcast := (hn.fits (r := .subject) (p := .crew) hd (by decide)).crewed
  obtain ⟨g, hg⟩ := hcast.group
  unfold beatsOf
  refine Ends.bind (Participants.value_ends hg) fun rescuers hrescuers => ?_
  subst hrescuers
  refine Ends.bind (Participants.one_ends (hn.fits (p := .hero) hd (by decide)))
    fun abductee habductee => ?_
  refine Ends.bind (Participants.any_ends hcast.members hcast.cast) fun leader hleader =>
    Ends.pure ?_
  have hduty := suits_mention (mentions_rescueDuty habductee)
  have habductee := suits_protagonist hw habductee
  have hleader := suits_protagonist hw hleader
  have hcast : ∀ s ∈ n.membersOf .subject, Guise.character.Suits w s :=
    fun s hs => suits_protagonist hw (hcast.cast s hs)
  simp only [scripted_append, scripted_each, scripted_cons, scripted_nil, script_sequence, and_true,
    and_assoc]
  exact ⟨script_beat hleader rfl, script_beat (suits_group g) rfl, script_beat habductee rfl,
    script_beatOn (suits_group g) habductee rfl, script_beat habductee rfl,
    fun s hs => script_beatOn (hcast s hs) hduty rfl,
    fun s hs => ⟨script_beatOn habductee (hcast s hs) rfl, script_beat (hcast s hs) rfl⟩⟩

theorem loseItem_scripted (hd : n.development? = some .loseItem) :
    Ends I E (Scripted w) (beatsOf ⟨n, .loseItem⟩) := by
  have hcrew := (hn.fits (r := .bystanders) (p := .crew) hd (by decide)).crewed
  unfold beatsOf
  refine Ends.bind (Participants.one_ends (hn.fits (p := .hero) hd (by decide))) fun s hs => ?_
  refine Ends.bind (Participants.one_ends (hn.fits (p := .item) hd (by decide))) fun item hitem => ?_
  have hduty := suits_mention (mentions_retrieveDuty hitem)
  have hitem := suits_mention (mentions_macguffin hitem)
  have hs := suits_protagonist hw hs
  refine Ends.bind (P := fun reactions => Scripted w reactions.flatten) ?_ fun reactions hreactions =>
    Ends.pure ?_
  · refine (Ends.mapM (S := fun _ ms => Scripted w ms) _ fun b hb => ?_).imp (fun _ h => h)
      fun reactions hreactions m hm => ?_
    · have hb := suits_protagonist hw (hcrew.cast b hb)
      refine Ends.drawn ((Roll.chance_yields 50).bind fun looks _ => Yields.pure ?_)
      simp only [scripted_cons, scripted_nil, and_true]
      refine ⟨script_beat hb rfl, script_beatOn hb hduty rfl, ?_⟩
      split
      · exact script_beatOn hb hs rfl
      · exact script_beatOn hb hs rfl
    · obtain ⟨ms, hms, hm⟩ := List.mem_flatten.1 hm
      obtain ⟨-, -, hscripted⟩ := exists_of_mem_right hreactions hms
      exact hscripted m hm
  · simp only [scripted_append, scripted_cons, scripted_nil, and_true, and_assoc]
    exact ⟨script_beat hs rfl, script_beatOn hs hitem rfl, script_beat hs rfl,
      script_beatOn hs hitem rfl, script_beat hitem rfl, script_beat hs rfl, script_beat hs rfl,
      script_beatOn hs hduty rfl, hreactions⟩

theorem recoverItem_scripted (hd : n.development? = some .recoverItem) :
    Ends I E (Scripted w) (beatsOf ⟨n, .recoverItem⟩) := by
  have hcrew := (hn.fits (r := .bystanders) (p := .crew) hd (by decide)).crewed
  obtain ⟨here, hhere, hsetting⟩ := hn.setting
  unfold beatsOf
  refine Ends.bind (Participants.one_ends (hn.fits (p := .hero) hd (by decide))) fun s hs => ?_
  refine Ends.bind (Participants.one_ends (hn.fits (p := .item) hd (by decide))) fun item hitem => ?_
  refine Ends.bind (Participants.setting_ends hsetting) fun setting heq => ?_
  subst heq
  refine Ends.bind (P := fun scenery : Option Object => ∀ o, scenery = some o → o ∈ w.mentions)
    (Ends.drawn ?_) fun scenery hscenery => ?_
  · split
    · rename_i place hplace
      refine (Roll.choose_yields _).imp fun scenery hscenery o ho => ?_
      subst ho
      split at hscenery
      · cases hscenery
      · obtain ⟨a, ha, heq⟩ := hscenery
        obtain rfl := Option.some.inj heq
        exact mentions_nearby hhere hplace (List.mem_filter.1 ha).1
    · exact Yields.pure nofun
  refine Ends.bind (Ends.drawn (Roll.choose_yields _)) fun relieved hrelieved => Ends.pure ?_
  have hduty := suits_mention (mentions_retrieveDuty hitem)
  have hitem := suits_mention (mentions_macguffin hitem)
  have hs := suits_protagonist hw hs
  have hcrew' : ∀ b ∈ n.membersOf .bystanders, Guise.character.Suits w b :=
    fun b hb => suits_protagonist hw (hcrew.cast b hb)
  rw [if_neg hcrew.members] at hrelieved
  obtain ⟨b, hb, rfl⟩ := hrelieved
  have hbehind : Scripted w
      (scenery.map fun o => beatOn .lookBehind (Value.object s) (Value.object o)).toList := by
    cases scenery with
    | none => exact scripted_nil
    | some o =>
      exact scripted_cons.2 ⟨script_beatOn hs (suits_mention (hscenery o rfl)) rfl, scripted_nil⟩
  simp only [scripted_append, scripted_each, scripted_cons, scripted_nil, script_sequence, and_true,
    and_assoc]
  refine ⟨script_beat hs rfl, script_beat hs rfl, ?_, script_beatOn hs hitem rfl,
    script_beatOn hs hduty rfl, script_beat hs rfl,
    fun b hb => ⟨script_beatOn (hcrew' b hb) hduty rfl, script_beat (hcrew' b hb) rfl⟩, ?_⟩
  · cases scenery with
    | none => exact hbehind
    | some o => exact hbehind
  · exact scripted_cons.2 ⟨script_beat (hcrew' b hb) rfl, scripted_nil⟩

theorem trappedInRubble_scripted (hd : n.development? = some .trappedInRubble) :
    Ends I E (Scripted w) (beatsOf ⟨n, .trappedInRubble⟩) := by
  have hcrew := (hn.fits (r := .bystanders) (p := .crew) hd (by decide)).crewed
  obtain ⟨here, hhere, hsetting⟩ := hn.setting
  obtain ⟨place, hplace, -⟩ := hw.site here hhere
  unfold beatsOf
  refine Ends.bind (Participants.one_ends (hn.fits (p := .hero) hd (by decide))) fun s hs => ?_
  refine Ends.bind (Participants.setting_ends hsetting) fun setting heq => ?_
  subst heq
  simp only [hplace]
  refine Ends.bind (Ends.pure (P := (· = place.roof)) rfl) fun roof hroof => ?_
  subst hroof
  refine Ends.bind (Participants.any_ends hcrew.members hcrew.cast) fun listener hlistener =>
    Ends.pure ?_
  have hroof := suits_mention (mentions_roof hhere hplace)
  have hduty := suits_mention (mentions_rescueDuty hs)
  have hs := suits_protagonist hw hs
  have hcrew : ∀ b ∈ n.membersOf .bystanders, Guise.character.Suits w b :=
    fun b hb => suits_protagonist hw (hcrew.cast b hb)
  simp only [scripted_append, scripted_each, scripted_cons, scripted_nil, script_sequence, and_true,
    and_assoc]
  exact ⟨script_alone rfl, script_beat (suits_protagonist hw hlistener) rfl, script_beat hroof rfl,
    script_beat hs rfl, script_beat hs rfl, script_beat hs rfl,
    fun b hb => ⟨script_beat (hcrew b hb) rfl, script_beat (hcrew b hb) rfl,
      script_beatOn (hcrew b hb) hduty rfl⟩⟩

omit [Lasting I] in
theorem extractedFromRubble_scripted (hd : n.development? = some .extractedFromRubble) :
    Ends I E (Scripted w) (beatsOf ⟨n, .extractedFromRubble⟩) := by
  have hcast := (hn.fits (r := .subject) (p := .crew) hd (by decide)).crewed
  unfold beatsOf
  refine Ends.bind (Participants.one_ends (hn.fits (p := .hero) hd (by decide)))
    fun trapped htrapped => Ends.pure ?_
  have hduty := suits_mention (mentions_rescueDuty htrapped)
  have htrapped := suits_protagonist hw htrapped
  have hcast : ∀ s ∈ n.membersOf .subject, Guise.character.Suits w s :=
    fun s hs => suits_protagonist hw (hcast.cast s hs)
  simp only [scripted_append, scripted_each, scripted_cons, scripted_nil, script_sequence, and_true,
    and_assoc]
  exact ⟨fun s hs => ⟨script_beat (hcast s hs) rfl, script_beatOn (hcast s hs) htrapped rfl⟩,
    script_beat htrapped rfl,
    fun s hs => ⟨script_beatOn htrapped (hcast s hs) rfl, script_beat (hcast s hs) rfl,
      script_beatOn (hcast s hs) hduty rfl⟩⟩

/-! ### Fights -/

omit [Lasting I] in
theorem goonAmbush_scripted (hd : n.development? = some .goonAmbush) :
    Ends I E (Scripted w) (beatsOf ⟨n, .goonAmbush⟩) := by
  have hcast := (hn.fits (r := .subject) (p := .crew) hd (by decide)).crewed
  obtain ⟨g, hg⟩ := hcast.group
  unfold beatsOf
  refine Ends.bind (Participants.value_ends hg) fun party hparty => ?_
  subst hparty
  refine Ends.bind (Participants.one_ends (hn.fits (p := .thing) hd (by decide))) fun goons hgoons =>
    Ends.pure ?_
  have hgoons := suits_mention hgoons
  simp only [scripted_each, scripted_cons, scripted_nil, script_sequence, and_true]
  exact ⟨script_beatOn hgoons (suits_group g) rfl,
    fun s hs => script_beat (suits_protagonist hw (hcast.cast s hs)) rfl, script_alone rfl⟩

theorem goonEncounter_scripted (hd : n.development? = some .goonEncounter) :
    Ends I E (Scripted w) (beatsOf ⟨n, .goonEncounter⟩) := by
  have hcast := (hn.fits (r := .subject) (p := .crew) hd (by decide)).crewed
  obtain ⟨g, hg⟩ := hcast.group
  unfold beatsOf
  refine Ends.bind (Participants.value_ends hg) fun party hparty => ?_
  subst hparty
  refine Ends.bind (Participants.one_ends (hn.fits (p := .thing) hd (by decide)))
    fun goons hgoons => ?_
  refine Ends.bind (Participants.any_ends hcast.members hcast.cast) fun speaker hspeaker =>
    Ends.pure ?_
  have hgoons := suits_mention hgoons
  simp only [scripted_each, scripted_cons, scripted_nil, script_sequence, and_true]
  exact ⟨script_beatOn hgoons (suits_group g) rfl,
    script_beatOn (suits_protagonist hw hspeaker) hgoons rfl, script_beat hgoons rfl,
    fun s hs => script_beat (suits_protagonist hw (hcast.cast s hs)) rfl, script_alone rfl⟩

theorem protagonistAttack_scripted (hd : n.development? = some .protagonistAttack) :
    Ends I E (Scripted w) (beatsOf ⟨n, .protagonistAttack⟩) := by
  have hcast := (hn.fits (r := .subject) (p := .crew) hd (by decide)).crewed
  unfold beatsOf
  refine Ends.bind (Participants.one_ends (hn.fits (p := .thing) hd (by decide)))
    fun goons hgoons => ?_
  have hgoons := suits_mention hgoons
  refine Ends.bind (Ends.drawn (Roll.choose_yields _)) fun fighter hfighter => ?_
  cases fighter with
  | none =>
    refine Ends.bind (Participants.any_ends hcast.members hcast.cast) fun s hs => Ends.pure ?_
    have hs := suits_protagonist hw hs
    simp only [scripted_cons, scripted_nil, script_sequence, and_true]
    exact ⟨script_beat hs rfl, script_beat hs rfl⟩
  | some armed =>
    refine Ends.pure ?_
    split at hfighter
    · cases hfighter
    obtain ⟨armed', hmem, heq⟩ := hfighter
    obtain rfl := Option.some.inj heq
    obtain ⟨s, hs, hpair⟩ := List.mem_filterMap.1 hmem
    obtain ⟨weapon, hweapon, rfl⟩ := Option.map_eq_some_iff.1 hpair
    have hweapon := suits_mention (mentions_weapon (hcast.cast s hs) hweapon)
    have hs := suits_protagonist hw (hcast.cast s hs)
    simp only [scripted_cons, scripted_nil, script_sequence, and_true]
    exact ⟨script_beat hs rfl, script_beatOn hs hweapon rfl, script_beatOn hs hweapon rfl,
      script_beatOn hs hweapon rfl, script_beatOn hweapon hgoons rfl, script_beat hgoons rfl⟩

/-- Whoever there is to fall for is left when the heroine is picked. -/
theorem awkwardCombat_scripted (hd : n.development? = some .awkwardCombat) :
    Ends I E (Scripted w) (beatsOf ⟨n, .awkwardCombat⟩) := by
  have hcast := (hn.fits (r := .subject) (p := .crew) hd (by decide)).crewed
  obtain ⟨lead, dreamboat, hcouple⟩ := hn.couple hd
  unfold beatsOf
  refine Ends.bind (Participants.one_ends (hn.fits (p := .thing) hd (by decide)))
    fun goons hgoons => ?_
  refine Ends.bind (extractFor_ends ⟨lead, hcouple.lead_mem, hcouple.isLead⟩) fun taken htaken => ?_
  obtain ⟨a, others⟩ := taken
  have hleft := htaken.2.2 dreamboat hcouple.dreamboat_mem (isLead_of_isDreamboat hcouple.isDreamboat)
  refine Ends.bind (extractFor_ends ⟨dreamboat, hleft, hcouple.isDreamboat⟩) fun taken' htaken' =>
    Ends.pure ?_
  obtain ⟨b, _⟩ := taken'
  have ha := suits_protagonist hw (hcast.cast a htaken.1)
  have hb := suits_protagonist hw (hcast.cast b (htaken.2.1 b htaken'.1))
  have hgoons := suits_mention hgoons
  simp only [scripted_cons, scripted_nil, script_sequence, and_true]
  exact ⟨script_beatOn ha hgoons rfl, script_beatOn ha hb rfl, script_beatOn hb ha rfl,
    script_beat ha rfl, script_beat ha rfl, script_beat hb rfl⟩

theorem vanquished_scripted (hd : n.development? = some .vanquished) :
    Ends I E (Scripted w) (beatsOf ⟨n, .vanquished⟩) := by
  have hcast := (hn.fits (r := .subject) (p := .crew) hd (by decide)).crewed
  unfold beatsOf
  refine Ends.bind (Participants.one_ends (hn.fits (p := .thing) hd (by decide)))
    fun goons hgoons => ?_
  refine Ends.bind (Participants.one_ends (hn.fits (p := .villain) hd (by decide)))
    fun villain hvillain => ?_
  refine Ends.bind (Participants.any_ends hcast.members hcast.cast) fun speaker hspeaker => ?_
  refine Ends.bind (extractAnyone_ends hcast.members) fun taken htaken => ?_
  obtain ⟨a, others⟩ := taken
  refine Ends.bind (Ends.drawn (Roll.extract_yields _ _)) fun taken' htaken' => Ends.pure ?_
  obtain ⟨b?, _⟩ := taken'
  have hgoons := suits_mention hgoons
  have hvillain := suits_antagonist hw hvillain
  have hspeaker := suits_protagonist hw hspeaker
  have ha := suits_protagonist hw (hcast.cast a htaken.1)
  have hb : ∀ b ∈ b?.toList, Guise.character.Suits w b := fun b hb =>
    suits_protagonist hw (hcast.cast b (htaken.2 b (htaken'.taken b (Option.mem_toList.1 hb)).1))
  simp only [scripted_append, scripted_each, scripted_cons, scripted_nil, script_sequence, and_true,
    and_assoc]
  exact ⟨script_beat hgoons rfl, script_beat hspeaker rfl,
    fun s hs => script_beat (suits_protagonist hw (hcast.cast s hs)) rfl, script_beat hvillain rfl,
    script_beatOnFor ha hgoons hvillain rfl, script_beat ha rfl,
    fun b h => ⟨script_beat (hb b h) rfl, script_beat (hb b h) rfl⟩⟩

/-! ### Tender moments -/

omit [Lasting I] in
theorem awkwardTension_scripted (hd : n.development? = some .awkwardTension) :
    Ends I E (Scripted w) (beatsOf ⟨n, .awkwardTension⟩) := by
  unfold beatsOf
  refine Ends.bind (Participants.one_ends (hn.fits (p := .hero) hd (by decide))) fun a ha => ?_
  refine Ends.bind (Participants.one_ends (hn.fits (p := .hero) hd (by decide))) fun b hb =>
    Ends.pure ?_
  have ha := suits_protagonist hw ha
  have hb := suits_protagonist hw hb
  simp only [scripted_cons, scripted_nil, and_true]
  exact ⟨script_beat ha rfl, script_beatOn ha hb rfl, script_beatOn ha hb rfl,
    script_beatOn hb ha rfl, script_beatOn ha hb rfl, script_beat hb rfl, script_beat hb rfl,
    script_beatOn hb ha rfl, script_beat ha rfl, script_beat hb rfl⟩

theorem romanticTension_scripted (hd : n.development? = some .romanticTension) :
    Ends I E (Scripted w) (beatsOf ⟨n, .romanticTension⟩) := by
  unfold beatsOf
  refine Ends.bind (Participants.one_ends (hn.fits (p := .hero) hd (by decide))) fun a ha => ?_
  refine Ends.bind (Participants.one_ends (hn.fits (p := .hero) hd (by decide))) fun b hb => ?_
  refine Ends.bind (Ends.drawn (rollRounds_yields _)) fun rounds _ => Ends.pure ?_
  have ha := suits_protagonist hw ha
  have hb := suits_protagonist hw hb
  have hround : Script w (sequence [beatOn .fidget a b, beat .becomeEmbarrassed b,
      beatOn .whatIsIt b a, beatOn .facesCloseTogether b a]) := by
    simp only [scripted_cons, scripted_nil, script_sequence, and_true]
    exact ⟨script_beatOn ha hb rfl, script_beat hb rfl, script_beatOn hb ha rfl,
      script_beatOn hb ha rfl⟩
  simp only [scripted_append, scripted_cons, scripted_nil, and_true, and_assoc]
  exact ⟨script_beat ha rfl, script_beatOn ha hb rfl, script_beatOn ha hb rfl,
    script_beatOn hb ha rfl, fun m hm => List.eq_of_mem_replicate hm ▸ hround,
    script_beatOn ha hb rfl⟩

omit [Lasting I] in
theorem romanticResolution_scripted (hd : n.development? = some .romanticResolution) :
    Ends I E (Scripted w) (beatsOf ⟨n, .romanticResolution⟩) := by
  unfold beatsOf
  refine Ends.bind (Participants.one_ends (hn.fits (p := .hero) hd (by decide))) fun a ha => ?_
  refine Ends.bind (Participants.one_ends (hn.fits (p := .hero) hd (by decide))) fun b hb =>
    Ends.pure ?_
  have ha := suits_protagonist hw ha
  have hb := suits_protagonist hw hb
  simp only [scripted_cons, scripted_nil, and_true]
  exact ⟨script_beat ha rfl, script_beat hb rfl, script_beatOn ha hb rfl, script_beatOn hb ha rfl,
    script_beatOn ha hb rfl, script_beatOn hb ha rfl, script_beatOn hb ha rfl,
    script_beatOn hb ha rfl, script_beatOn hb ha rfl⟩

/-! ### On the way -/

omit hw [Lasting I] in
theorem journey_scripted (hd : n.development? = some .journey) :
    Ends I E (Scripted w) (beatsOf ⟨n, .journey⟩) := by
  obtain ⟨_, hparty, g, rfl⟩ := hn.fits (r := .subject) (p := .party) hd (by decide)
  unfold beatsOf
  refine Ends.bind (Participants.value_ends hparty) fun party heq => ?_
  subst heq
  refine Ends.bind (Participants.one_ends (hn.fits (p := .thing) hd (by decide))) fun goal hgoal =>
    Ends.pure ?_
  exact scripted_cons.2 ⟨script_beatOn (suits_group g) (suits_mention hgoal) rfl, scripted_nil⟩

theorem encounterNewSetting_scripted (hd : n.development? = some .encounterNewSetting) :
    Ends I E (Scripted w) (beatsOf ⟨n, .encounterNewSetting⟩) := by
  have hcast := (hn.fits (r := .subject) (p := .crew) hd (by decide)).crewed
  unfold beatsOf
  refine Ends.bind (Ends.drawn (Roll.extract_yields _ _)) fun taken htaken => ?_
  obtain ⟨snarker?, others⟩ := taken
  refine Ends.bind (Ends.drawn (Roll.extract_yields _ _)) fun taken' htaken' => ?_
  obtain ⟨reader?, _⟩ := taken'
  have hsnarker : ∀ s, snarker? = some s → Guise.character.Suits w s := fun s hs =>
    suits_protagonist hw (hcast.cast s (htaken.taken s hs).1)
  have hreader : ∀ s, reader? = some s → Guise.character.Suits w s := fun s hs =>
    suits_protagonist hw (hcast.cast s (htaken.rest s (htaken'.taken s hs).1))
  cases snarker? with
  | none =>
    cases reader? with
    | none => exact Ends.pure scripted_nil
    | some reader =>
      exact Ends.pure (scripted_cons.2 ⟨script_beat (hreader reader rfl) rfl, scripted_nil⟩)
  | some snarker =>
    have hs := hsnarker snarker rfl
    cases reader? with
    | none =>
      refine Ends.pure ?_
      simp only [scripted_cons, scripted_nil, script_sequence, and_true]
      exact ⟨script_beat hs rfl, script_beat hs rfl⟩
    | some reader =>
      refine Ends.pure ?_
      simp only [scripted_cons, scripted_nil, script_sequence, and_true]
      exact ⟨⟨script_beat hs rfl, script_beat hs rfl⟩, script_beat (hreader reader rfl) rfl,
        script_beat hs rfl⟩

/-- A development whose roles are filled is told by beats that suit their templates. -/
theorem beatsOf_scripted {d : Development} (hd : n.development? = some d) :
    Ends I E (Scripted w) (beatsOf ⟨n, d⟩) := by
  cases d with
  | introduction => exact introduction_scripted hw hn hd
  | itemForeshadowed => exact itemForeshadowed_scripted hw hn hd
  | itemRecalled => exact itemRecalled_scripted hw hn hd
  | convalescence => exact convalescence_scripted hw hn hd
  | allLaugh => exact Ends.pure (scripted_cons.2 ⟨script_alone rfl, scripted_nil⟩)
  | kidnapping => exact kidnapping_scripted hw hn hd
  | locateAbductee => exact locateAbductee_scripted hw hn hd
  | wayBlocked => exact wayBlocked_scripted hw hn hd
  | rescue => exact rescue_scripted hw hn hd
  | loseItem => exact loseItem_scripted hw hn hd
  | recoverItem => exact recoverItem_scripted hw hn hd
  | trappedInRubble => exact trappedInRubble_scripted hw hn hd
  | extractedFromRubble => exact extractedFromRubble_scripted hw hn hd
  | goonAmbush => exact goonAmbush_scripted hw hn hd
  | goonEncounter => exact goonEncounter_scripted hw hn hd
  | protagonistAttack => exact protagonistAttack_scripted hw hn hd
  | awkwardCombat => exact awkwardCombat_scripted hw hn hd
  | vanquished => exact vanquished_scripted hw hn hd
  | awkwardTension => exact awkwardTension_scripted hw hn hd
  | romanticTension => exact romanticTension_scripted hw hn hd
  | romanticResolution => exact romanticResolution_scripted hw hn hd
  | drone => exact drone_scripted hw hn hd
  | contemplateItem => exact contemplateItem_scripted hw hn hd
  | journey => exact journey_scripted hn hd
  | encounterNewSetting => exact encounterNewSetting_scripted hw hn hd

end Telling

end Developments

/-! ## Plots -/

section Plots

variable {w : World} {n plot : PlotNode} {I : Context → Prop} [Lasting I] {E : PlotError → Prop}

/-- A scene of beats in one of the settings. -/
structure Staging (w : World) (c : StoryNode) : Prop where
  scene : SceneOf sequences c
  acted : c.Everywhere (Acted w)

theorem sceneOf_staging (hw : w.Built) (hn : Filled w n) (hd : n.development?.isSome = true) :
    Ends I E (Staging w) (sceneOf n) := by
  obtain ⟨d, hd⟩ := Option.isSome_iff_exists.1 hd
  obtain ⟨here, hhere, hsetting⟩ := hn.setting
  have hevents : Ends I E (Scripted w) (createEvents n) := by
    unfold createEvents
    rw [hd]
    exact beatsOf_scripted hw hn hd
  unfold sceneOf
  rw [hsetting]
  refine hevents.bind fun events hevents => Ends.pure ?_
  have hscript : Script w (sequence events) := script_sequence.2 hevents
  exact ⟨⟨rfl, List.forall_mem_singleton.2 hscript.body⟩,
    Node.everywhere_mk.2 ⟨⟨here, hhere, rfl⟩, List.forall_mem_singleton.2 hscript.acted⟩⟩

/-- A plot of filled developments is told as a story of beats that suit their templates. -/
theorem ofPlot_ends (hw : w.Built) (hplot : Played w plot) :
    Ends I E (fun story => StoryOf sequences story ∧ story.Everywhere (Acted w))
      (Story.ofPlot plot) := by
  obtain ⟨ms, rfl, hms⟩ := hplot
  have hflat : (PlotNode.sequence ms).flatten = PlotNode.sequence ms := by
    rw [PlotNode.sequence, Node.flatten]
    exact congrArg PlotNode.sequence (flattenList_of_staged fun m hm => (hms m hm).1)
  unfold Story.ofPlot
  rw [hflat]
  refine (Ends.mapM (S := fun _ c => Staging w c) _ fun m hm => ?_).bind fun scenes hscenes =>
    Ends.pure ?_
  · have hmem : m ∈ ms := by
      rwa [developments_of_leaves rfl fun m hm => ⟨(hms m hm).1.isLeaf, (hms m hm).2.1⟩] at hm
    exact sceneOf_staging hw (hms m hmem).2.2 (hms m hmem).2.1
  · have hstaging : ∀ c ∈ scenes, Staging w c := by
      intro c hc
      obtain ⟨-, -, hstaged⟩ := exists_of_mem_right hscenes hc
      exact hstaged
    exact ⟨⟨rfl, fun c hc => (hstaging c hc).scene⟩,
      Node.everywhere_mk.2 ⟨rfl, fun c hc => (hstaging c hc).acted⟩⟩

/-- The story of a plot that has a development has a scene. -/
theorem ofPlot_nonempty (h : plot.developments ≠ []) :
    Ends (fun _ : Context => True) (fun _ => True) (fun story => story.children ≠ [])
      (Story.ofPlot plot) := by
  have hscenes : Ends (fun _ : Context => True) (fun _ => True)
      (List.Forall₂ (fun _ _ => True) plot.flatten.developments)
      (plot.flatten.developments.mapM sceneOf) :=
    Ends.mapM _ fun _ _ => Ends.anything fun _ => trivial
  unfold Story.ofPlot
  refine hscenes.bind fun scenes hscenes => Ends.pure ?_
  rintro rfl
  rw [List.forall₂_nil_right_iff, developments_flatten, List.map_eq_nil_iff] at hscenes
  exact h hscenes

end Plots

end SpaceOpera
