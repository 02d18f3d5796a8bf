import Mathlib.Data.List.Chain
import SpaceOpera.Proofs.Success
import SpaceOpera.Template.Basic

/-!
# Reading back what is written

A template is canonical if it can be told from what it is written as: no text in it is empty, next to another
text or with an angle, every slot asks for something, and every choice has options, without bars in their
texts.  What is written for a canonical template reads back as that template, and whatever is read is canonical
(`parse_write`).
-/

namespace SpaceOpera.Template

open SpaceOpera.Text

/-! ## Canonical templates -/

/-- A text without angles, or a slot that asks for something. -/
def Piece.Canonical : Piece → Prop
  | .literal text => text ≠ [] ∧ '<' ∉ text ∧ '>' ∉ text
  | .slot _ path => path ≠ []

/-- Is the piece text? -/
def Piece.isLiteral : Piece → Bool
  | .literal _ => true
  | .slot _ _ => false

/-- Is the piece a text with a bar? -/
def Piece.hasBar : Piece → Bool
  | .literal text => text.contains '|'
  | .slot _ _ => false

/-- A list of which every element is as it should be, and no two texts are neighbours. -/
structure Composed {α : Type} (isText : α → Bool) (P : α → Prop) (l : List α) : Prop where
  each : ∀ a ∈ l, P a
  apart : l.IsChain fun a b => ¬(isText a = true ∧ isText b = true)

/-- A piece, or a choice between options without bars in their texts. -/
def Segment.Canonical : Segment → Prop
  | .piece p => p.Canonical
  | .choice options => options ≠ [] ∧
      ∀ ps ∈ options, Composed Piece.isLiteral (fun p => p.Canonical ∧ p.hasBar = false) ps

/-- Is the segment text? -/
def Segment.isLiteral : Segment → Bool
  | .piece p => p.isLiteral
  | .choice _ => false

/-- A template of canonical segments. -/
def Canonical (t : Template) : Prop :=
  Composed Segment.isLiteral Segment.Canonical t

namespace Composed

variable {α : Type} {isText : α → Bool} {P Q : α → Prop} {a : α} {l : List α}

theorem nil : Composed isText P [] := ⟨nofun, .nil⟩

theorem cons (ha : P a) (hnext : isText a = true → ∀ b ∈ l.head?, isText b = false)
    (h : Composed isText P l) : Composed isText P (a :: l) := by
  refine ⟨List.forall_mem_cons.2 ⟨ha, h.each⟩, List.isChain_cons.2 ⟨fun b hb hboth => ?_, h.apart⟩⟩
  exact Bool.false_ne_true ((hnext hboth.1 b hb).symm.trans hboth.2)

theorem of_cons (h : Composed isText P (a :: l)) :
    P a ∧ (isText a = true → ∀ b ∈ l.head?, isText b = false) ∧ Composed isText P l := by
  obtain ⟨heach, hapart⟩ := h
  obtain ⟨ha, heach⟩ := List.forall_mem_cons.1 heach
  obtain ⟨hhead, hapart⟩ := List.isChain_cons.1 hapart
  exact ⟨ha, fun hta b hb => by simpa [hta] using hhead b hb, heach, hapart⟩

theorem imp (h : Composed isText P l) (hPQ : ∀ a, P a → Q a) : Composed isText Q l :=
  ⟨fun a ha => hPQ a (h.each a ha), h.apart⟩

end Composed

/-! ## Texts in pieces -/

section Pieces

variable {separates : Char → Bool} {front text p : List Char} {ps : List (List Char)}

/-- What does not separate stays with the first piece. -/
theorem pieces_append (h : ∀ c ∈ front, separates c = false) (hps : pieces separates text = p :: ps) :
    pieces separates (front ++ text) = (front ++ p) :: ps := by
  induction front with
  | nil => exact hps
  | cons c front ih =>
    obtain ⟨hc, hfront⟩ := List.forall_mem_cons.1 h
    rw [List.cons_append, pieces_cons, hc, if_neg Bool.false_ne_true, ih hfront]
    rfl

/-- Texts with separators between them, in pieces. -/
theorem pieces_flatMap {separator : Char} (hfront : separator ∉ front)
    (hps : ∀ p ∈ ps, separator ∉ p) :
    pieces (· == separator) (front ++ ps.flatMap (separator :: ·)) = front :: ps := by
  have hfree : ∀ {text : List Char}, separator ∉ text → ∀ c ∈ text, (c == separator) = false := by
    intro text h c hc
    simp only [beq_eq_false_iff_ne, ne_eq]
    rintro rfl
    exact h hc
  induction ps generalizing front with
  | nil =>
    rw [List.flatMap_nil, pieces_append (hfree hfront) (pieces_nil _), List.append_nil]
  | cons p ps ih =>
    obtain ⟨hp, hps⟩ := List.forall_mem_cons.1 hps
    have hrest : pieces (· == separator) (separator :: (p ++ ps.flatMap (separator :: ·))) = [] :: p :: ps := by
      rw [pieces_cons, if_pos BEq.rfl, ih hp hps]
    rw [List.flatMap_cons, List.cons_append, pieces_append (hfree hfront) hrest, List.append_nil]

theorem intercalate_eq_flatMap (separator : Char) (p : List Char) (ps : List (List Char)) :
    [separator].intercalate (p :: ps) = p ++ ps.flatMap (separator :: ·) := by
  induction ps generalizing p with
  | nil => simp
  | cons q ps ih =>
    rw [List.intercalate_cons_cons, ih q, List.flatMap_cons]
    simp

/-- Texts with separators between them are their pieces. -/
theorem pieces_intercalate {separator : Char} (hne : ps ≠ []) (h : ∀ p ∈ ps, separator ∉ p) :
    pieces (· == separator) ([separator].intercalate ps) = ps := by
  cases ps with
  | nil => exact absurd rfl hne
  | cons p ps =>
    obtain ⟨hp, hps⟩ := List.forall_mem_cons.1 h
    rw [intercalate_eq_flatMap, pieces_flatMap hp hps]

theorem notMem_intercalate {c separator : Char} (hc : c ≠ separator) (h : ∀ p ∈ ps, c ∉ p) :
    c ∉ [separator].intercalate ps := by
  cases ps with
  | nil => simp
  | cons p ps =>
    obtain ⟨hp, hps⟩ := List.forall_mem_cons.1 h
    rw [intercalate_eq_flatMap]
    intro hmem
    rcases List.mem_append.1 hmem with hmem | hmem
    · exact hp hmem
    · obtain ⟨q, hq, hmem⟩ := List.mem_flatMap.1 hmem
      rcases List.mem_cons.1 hmem with rfl | hmem
      · exact hc rfl
      · exact hps q hq hmem

/-- No piece has a separator. -/
theorem not_separates_of_mem_pieces (text : List Char) :
    ∀ p ∈ pieces separates text, ∀ c ∈ p, separates c = false := by
  induction text with
  | nil => simp
  | cons c text ih =>
    rw [pieces_cons]
    split
    · exact List.forall_mem_cons.2 ⟨nofun, ih⟩
    · rename_i hc
      cases hps : pieces separates text with
      | nil => exact absurd hps (pieces_ne_nil separates text)
      | cons p ps =>
        rw [hps] at ih
        obtain ⟨hp, hps⟩ := List.forall_mem_cons.1 ih
        refine List.forall_mem_cons.2 ⟨List.forall_mem_cons.2 ⟨by simpa using hc, hp⟩, hps⟩

end Pieces

/-! ## Tokens -/

section Tokens

variable {inChoice : Bool} {c d : Char} {text after content : List Char}

/-- A character of text as it is written is read as that character. -/
theorem token_writeChar (hc : c ≠ '<' ∧ c ≠ '>') (rest : List Char) :
    ∃ tail, writeChar c ++ rest = c :: tail ∧ token inChoice c tail = .ok (.char c, rest) := by
  unfold writeChar
  by_cases hbrace : c = '{' ∨ c = '}'
  · rw [if_pos hbrace]
    refine ⟨c :: rest, rfl, ?_⟩
    rcases hbrace with rfl | rfl
    · rfl
    · rfl
  · rw [if_neg hbrace]
    refine ⟨rest, rfl, ?_⟩
    unfold token
    split <;> simp_all

theorem token_braces (hfirst : content.head? ≠ some '{') (hopen : '{' ∉ content) (hclose : '}' ∉ content)
    (after : List Char) :
    token inChoice '{' (content ++ '}' :: after) = .ok (.braces content, after) := by
  have hup : upTo? '}' (content ++ '}' :: after) = some (content, after) :=
    upTo?_eq_some_iff.2 ⟨rfl, hclose⟩
  cases content with
  | nil => rfl
  | cons d content =>
    have hd : d ≠ '{' := fun h => hfirst (congrArg some h)
    unfold token
    split <;> simp_all

theorem token_angles (hclose : '>' ∉ content) (after : List Char) :
    token false '<' (content ++ '>' :: after) = .ok (.angles content, after) := by
  have hup : upTo? '>' (content ++ '>' :: after) = some (content, after) :=
    upTo?_eq_some_iff.2 ⟨rfl, hclose⟩
  simp [token, hup]

/-- What a character token comes from: it is no angle, and it and what follows are of the text. -/
theorem of_token_char (h : token inChoice c text = .ok (.char d, after)) :
    (d ≠ '<' ∧ d ≠ '>') ∧ d ∈ c :: text ∧ after ⊆ c :: text := by
  unfold token at h
  split at h
  · cases h
    exact ⟨by decide, by simp, by simp⟩
  · cases h
    exact ⟨by decide, by simp, by simp⟩
  · split at h
    · cases h
    · split at h <;> cases h
  · cases h
  · split at h
    · cases h
    · split at h <;> cases h
  · cases h
  · cases h
    exact ⟨⟨by assumption, by assumption⟩, List.mem_cons_self, List.subset_cons_self _ _⟩

theorem of_token_braces (h : token inChoice c text = .ok (.braces content, after)) :
    after ⊆ c :: text := by
  unfold token at h
  split at h
  · cases h
  · cases h
  · rename_i text _
    split at h
    · cases h
    · rename_i inside rest hup
      split at h
      · cases h
      · cases h
        obtain ⟨rfl, -⟩ := upTo?_eq_some_iff.1 hup
        intro d hd
        simp [hd]
  · cases h
  · split at h
    · cases h
    · split at h <;> cases h
  · cases h
  · cases h

end Tokens

/-! ## Text, character by character -/

/-- A character is put in front of a list into the first text, or as a text of its own. -/
structure Prepends {α : Type} (isText : α → Bool) (ofText : List Char → α)
    (prepend : Char → List α → List α) : Prop where
  is_text : ∀ text, isText (ofText text) = true
  eq_text : ∀ a, isText a = true → ∃ text, a = ofText text
  before_text : ∀ c text l, prepend c (ofText text :: l) = ofText (c :: text) :: l
  before_other : ∀ c l, (∀ a ∈ l.head?, isText a = false) → prepend c l = ofText [c] :: l

theorem prependChar_prepends : Prepends Piece.isLiteral .literal prependChar where
  is_text _ := rfl
  eq_text p hp := by
    cases p with
    | literal text => exact ⟨text, rfl⟩
    | slot role path => cases hp
  before_text _ _ _ := rfl
  before_other c l hl := by
    obtain _ | ⟨text | ⟨role, path⟩, ps⟩ := l
    · rfl
    · cases hl _ rfl
    · rfl

theorem prependText_prepends : Prepends Segment.isLiteral (fun text => .piece (.literal text)) prependText where
  is_text _ := rfl
  eq_text s hs := by
    rcases s with (text | ⟨role, path⟩) | options
    · exact ⟨text, rfl⟩
    · cases hs
    · cases hs
  before_text _ _ _ := rfl
  before_other c l hl := by
    obtain _ | ⟨(text | ⟨role, path⟩) | options, ss⟩ := l
    · rfl
    · cases hl _ rfl
    · rfl
    · rfl

namespace Prepends

variable {α : Type} {isText : α → Bool} {ofText : List Char → α} {prepend : Char → List α → List α}
  {P : α → Prop} {c : Char} {text : List Char} {l : List α}

theorem foldr (h : Prepends isText ofText prepend) (htext : text ≠ [])
    (hl : ∀ a ∈ l.head?, isText a = false) : text.foldr prepend l = ofText text :: l := by
  induction text with
  | nil => exact absurd rfl htext
  | cons c text ih =>
    rw [List.foldr_cons]
    by_cases hrest : text = []
    · subst hrest
      exact h.before_other c l hl
    · rw [ih hrest, h.before_text]

theorem composed (h : Prepends isText ofText prepend) (halone : P (ofText [c]))
    (hfront : ∀ text, P (ofText text) → P (ofText (c :: text))) (hl : Composed isText P l) :
    Composed isText P (prepend c l) := by
  -- Either the first text grows by the character, or the character is a text of its own and no other follows.
  have hother : (∀ a ∈ l.head?, isText a = false) → Composed isText P (prepend c l) := by
    intro hnone
    rw [h.before_other c l hnone]
    exact .cons halone (fun _ => hnone) hl
  cases l with
  | nil => exact hother nofun
  | cons a l =>
    cases ha : isText a with
    | false => exact hother fun b hb => Option.some.inj hb ▸ ha
    | true =>
      obtain ⟨text, rfl⟩ := h.eq_text a ha
      obtain ⟨htext, hnext, hl⟩ := hl.of_cons
      rw [h.before_text]
      exact .cons (hfront text htext) (fun _ => hnext ha) hl

end Prepends

/-- Text as it is written is read up to whatever follows it. -/
theorem read_flatMap_writeChar {α : Type} {inChoice : Bool} {read : List Char → Except Fault (List α)}
    {prepend : Char → List α → List α} {text : List Char}
    (hstep : ∀ c text after, token inChoice c text = .ok (.char c, after) →
      read (c :: text) = (read after).map (prepend c))
    (htext : ∀ c ∈ text, c ≠ '<' ∧ c ≠ '>') (rest : List Char) :
    read (text.flatMap writeChar ++ rest) = (read rest).map fun l => text.foldr prepend l := by
  induction text with
  | nil =>
    rw [List.flatMap_nil, List.nil_append]
    cases read rest <;> rfl
  | cons c text ih =>
    obtain ⟨hc, htext⟩ := List.forall_mem_cons.1 htext
    obtain ⟨tail, hwrite, htoken⟩ := token_writeChar hc (text.flatMap writeChar ++ rest)
    rw [List.flatMap_cons, List.append_assoc, hwrite, hstep c tail _ htoken, ih htext]
    cases read rest <;> rfl

section Literals

variable {c : Char} {text : List Char}

theorem Piece.Canonical.ne_angles (h : (Piece.literal text).Canonical) :
    ∀ c ∈ text, c ≠ '<' ∧ c ≠ '>' := by
  obtain ⟨-, hopen, hclose⟩ := h
  refine fun c hc => ⟨?_, ?_⟩
  · rintro rfl
    exact hopen hc
  · rintro rfl
    exact hclose hc

theorem Piece.canonical_cons (hc : c ≠ '<' ∧ c ≠ '>') (hopen : '<' ∉ text) (hclose : '>' ∉ text) :
    (Piece.literal (c :: text)).Canonical :=
  ⟨List.cons_ne_nil _ _, by simp [hopen, hc.1.symm], by simp [hclose, hc.2.symm]⟩

end Literals

/-! ## Slots -/

section Slots

variable {role : Role} {path : List Property}

/-- What a slot has between its braces. -/
def slotText (role : Role) (path : List Property) : List Char :=
  role.name.toList ++ path.flatMap fun p => '.' :: p.spelling.toList

theorem write_slot (role : Role) (path : List Property) :
    (Piece.slot role path).write = '{' :: (slotText role path ++ ['}']) := by
  simp [Piece.write, slotText]

/-- Of what names are made. -/
def isNameChar (c : Char) : Bool :=
  c.isAlphanum || c == '_'

theorem isNameChar_of_role (role : Role) : ∀ c ∈ role.name.toList, isNameChar c = true := by
  refine List.all_eq_true.1 ?_
  cases role <;> decide

theorem isNameChar_of_property (p : Property) : ∀ c ∈ p.spelling.toList, isNameChar c = true := by
  refine List.all_eq_true.1 ?_
  cases p <;> decide

theorem notMem_slotText {c : Char} (hname : isNameChar c = false) (hdot : c ≠ '.')  :
    c ∉ slotText role path := by
  have hnone : ∀ {text : List Char}, (∀ d ∈ text, isNameChar d = true) → c ∉ text :=
    fun htext hc => by simp [htext c hc] at hname
  intro hc
  rcases List.mem_append.1 hc with hc | hc
  · exact hnone (isNameChar_of_role role) hc
  · obtain ⟨p, -, hc⟩ := List.mem_flatMap.1 hc
    rcases List.mem_cons.1 hc with rfl | hc
    · exact hdot rfl
    · exact hnone (isNameChar_of_property p) hc

theorem token_slot (inChoice : Bool) (role : Role) (path : List Property) (rest : List Char) :
    token inChoice '{' (slotText role path ++ '}' :: rest) = .ok (.braces (slotText role path), rest) := by
  have hopen : '{' ∉ slotText role path := notMem_slotText (by decide) (by decide)
  refine token_braces (fun hfirst => hopen ?_) hopen (notMem_slotText (by decide) (by decide)) rest
  exact List.mem_of_head? hfirst

/-- A slot reads back as itself. -/
theorem readSlot_slotText (hpath : path ≠ []) : readSlot (slotText role path) = .ok (.slot role path) := by
  have hfree : ∀ {text : List Char}, (∀ d ∈ text, isNameChar d = true) → '.' ∉ text :=
    fun htext hc => absurd (htext _ hc) (by decide)
  have hpieces : (pieces (· == '.') (slotText role path)).map String.ofList =
      role.name :: path.map Property.spelling := by
    have hwhole := pieces_flatMap (hfree (isNameChar_of_role role))
      (List.forall_mem_map.2 fun p _ => hfree (isNameChar_of_property p) :
        ∀ text ∈ path.map fun p => p.spelling.toList, '.' ∉ text)
    rw [List.flatMap_map] at hwhole
    rw [slotText, hwhole]
    simp
  have hhead : role.name.isEmpty = false := by cases role <;> rfl
  unfold readSlot
  rw [hpieces]
  dsimp only
  rw [hhead, if_neg Bool.false_ne_true, Role.parse?_name]
  dsimp only
  rw [mapM_map_eq_ok fun p _ => by rw [Property.parse?_spelling], ok_bind, if_neg (by simpa using hpath)]

theorem of_readSlot {content : List Char} {p : Piece} (h : readSlot content = .ok p) :
    p.Canonical ∧ p.isLiteral = false ∧ p.hasBar = false := by
  unfold readSlot at h
  split at h
  · cases h
  split at h
  · cases h
  split at h
  · cases h
  obtain ⟨path, -, h⟩ := bind_eq_ok.1 h
  split at h
  · cases h
  · rename_i hpath
    cases h
    exact ⟨by simpa [Piece.Canonical] using hpath, rfl, rfl⟩

end Slots

/-! ## Pieces -/

section ReadingPieces

variable {ps : List Piece}

theorem readPieces_cons (c : Char) (text : List Char) :
    readPieces (c :: text) = token true c text >>= fun
      | (.char d, after) => (readPieces after).map (prependChar d)
      | (.braces content, after) => do
        let slot ← readSlot content
        let ps ← readPieces after
        return slot :: ps
      | (.angles _, _) => .error .nestedChoice := by
  rw [readPieces]
  split
  all_goals
    rename_i hread
    rw [hread]
    rfl

/-- Pieces read back as themselves. -/
theorem readPieces_write (h : Composed Piece.isLiteral Piece.Canonical ps) :
    readPieces (ps.flatMap Piece.write) = .ok ps := by
  induction ps with
  | nil => rw [List.flatMap_nil, readPieces]
  | cons p ps ih =>
    obtain ⟨hp, hnext, hps⟩ := h.of_cons
    rw [List.flatMap_cons]
    cases p with
    | literal text =>
      have hstep : ∀ c text after, token true c text = .ok (.char c, after) →
          readPieces (c :: text) = (readPieces after).map (prependChar c) := by
        intro c text after htoken
        rw [readPieces_cons, htoken, ok_bind]
      rw [Piece.write, read_flatMap_writeChar hstep hp.ne_angles, ih hps]
      exact congrArg Except.ok (prependChar_prepends.foldr hp.1 (hnext rfl))
    | slot role path =>
      rw [write_slot, List.cons_append, List.append_assoc, List.singleton_append, readPieces_cons,
        token_slot, ok_bind]
      dsimp only
      rw [readSlot_slotText hp, ok_bind, ih hps]
      rfl

/-- Whatever is read is canonical, and has no bars that were not there. -/
theorem readPieces_canonical (text : List Char) : ∀ ps, readPieces text = .ok ps →
    Composed Piece.isLiteral (fun p => p.Canonical ∧ ('|' ∉ text → p.hasBar = false)) ps := by
  -- The recursion is the reader's own.  A text without bars has none behind its first token, so what holds of
  -- the pieces behind that token holds of them in the whole.
  induction text using readPieces.induct with
  | case1 =>
    intro ps h
    rw [readPieces] at h
    cases h
    exact .nil
  | case2 c text e hread =>
    intro ps h
    rw [readPieces_cons, hread] at h
    cases h
  | case3 c text d after hread ih =>
    intro ps h
    obtain ⟨hd, hmem, hsub⟩ := of_token_char hread
    rw [readPieces_cons, hread, ok_bind] at h
    dsimp only at h
    obtain ⟨qs, hqs, rfl⟩ := map_eq_ok.1 h
    have hbar : '|' ∉ c :: text → '|' ≠ d := fun hbar hd => hbar (hd ▸ hmem)
    refine prependChar_prepends.composed ?_ ?_ ((ih qs hqs).imp fun p hp => ⟨hp.1, fun hbar => ?_⟩)
    · exact ⟨Piece.canonical_cons hd (by simp) (by simp), fun h => by simp [Piece.hasBar, hbar h]⟩
    · rintro front ⟨⟨-, hopen, hclose⟩, hfront⟩
      refine ⟨Piece.canonical_cons hd hopen hclose, fun h => ?_⟩
      simpa [Piece.hasBar, hbar h] using hfront h
    · exact hp.2 fun h => hbar (hsub h)
  | case4 c text content after hread ih =>
    intro ps h
    rw [readPieces_cons, hread, ok_bind] at h
    obtain ⟨slot, hslot, h⟩ := bind_eq_ok.1 h
    obtain ⟨qs, hqs, h⟩ := bind_eq_ok.1 h
    cases h
    obtain ⟨hcanonical, hliteral, hbar⟩ := of_readSlot hslot
    refine .cons ⟨hcanonical, fun _ => hbar⟩ (fun h => absurd (hliteral.symm.trans h) Bool.false_ne_true) ?_
    exact (ih qs hqs).imp fun p hp => ⟨hp.1, fun hbar => hp.2 fun h => hbar (of_token_braces hread h)⟩
  | case5 c text content after hread =>
    intro ps h
    rw [readPieces_cons, hread] at h
    cases h

/-- What is read of a text without bars. -/
theorem readPieces_canonical_of_notMem {text : List Char} (hbar : '|' ∉ text)
    (h : readPieces text = .ok ps) :
    Composed Piece.isLiteral (fun p => p.Canonical ∧ p.hasBar = false) ps :=
  (readPieces_canonical text ps h).imp fun _ hp => ⟨hp.1, hp.2 hbar⟩

end ReadingPieces

/-! ## Segments -/

section Choices

variable {ps : List Piece} {options : List (List Piece)} {c : Char} {p : Piece}

theorem notMem_write (hc : c ≠ '{' ∧ c ≠ '}' ∧ c ≠ '.') (hname : isNameChar c = false)
    (hp : ∀ text, p = .literal text → c ∉ text) : c ∉ p.write := by
  cases p with
  | literal text =>
    intro h
    obtain ⟨d, hd, h⟩ := List.mem_flatMap.1 h
    have hcd : c = d := by
      unfold writeChar at h
      split at h <;> simpa using h
    exact hp text rfl (hcd ▸ hd)
  | slot role path =>
    rw [write_slot]
    simp [notMem_slotText hname hc.2.2, hc.1, hc.2.1]

/-- A character that no slot is written with is written only if a text has it. -/
theorem notMem_flatMap_write (hc : c ≠ '{' ∧ c ≠ '}' ∧ c ≠ '.') (hname : isNameChar c = false)
    (hps : ∀ text, .literal text ∈ ps → c ∉ text) : c ∉ ps.flatMap Piece.write := by
  intro h
  obtain ⟨p, hp, h⟩ := List.mem_flatMap.1 h
  exact notMem_write hc hname (fun text htext => hps text (htext ▸ hp)) h

variable (h : ∀ ps ∈ options, Composed Piece.isLiteral (fun p => p.Canonical ∧ p.hasBar = false) ps)

include h

/-- What stands between the angles of a choice ends with them. -/
theorem notMem_choice : '>' ∉ ['|'].intercalate (options.map fun ps => ps.flatMap Piece.write) := by
  refine notMem_intercalate (by decide) (List.forall_mem_map.2 fun ps hps => ?_)
  refine notMem_flatMap_write (by decide) (by decide) fun text htext => ?_
  exact ((h ps hps).each _ htext).1.2.2

/-- The options of a choice are told apart by the bars. -/
theorem pieces_choice (hne : options ≠ []) :
    pieces (· == '|') (['|'].intercalate (options.map fun ps => ps.flatMap Piece.write)) =
      options.map fun ps => ps.flatMap Piece.write := by
  refine pieces_intercalate (by simpa using hne) (List.forall_mem_map.2 fun ps hps => ?_)
  refine notMem_flatMap_write (by decide) (by decide) fun text htext => ?_
  simpa [Piece.hasBar] using ((h ps hps).each _ htext).2

/-- Options read back as themselves. -/
theorem mapM_readPieces_choice (hne : options ≠ []) :
    (pieces (· == '|') (['|'].intercalate (options.map fun ps => ps.flatMap Piece.write))).mapM readPieces =
      .ok options := by
  rw [pieces_choice h hne]
  exact mapM_map_eq_ok fun ps hps => readPieces_write ((h ps hps).imp fun _ hp => hp.1)

end Choices

/-- What is read of texts without bars. -/
theorem mapM_readPieces_canonical {texts : List (List Char)} (hbar : ∀ text ∈ texts, '|' ∉ text) :
    ∀ {options : List (List Piece)}, texts.mapM readPieces = .ok options →
      options.length = texts.length ∧
        ∀ ps ∈ options, Composed Piece.isLiteral (fun p => p.Canonical ∧ p.hasBar = false) ps := by
  induction texts with
  | nil =>
    intro options h
    cases h
    exact ⟨rfl, nofun⟩
  | cons text texts ih =>
    intro options h
    obtain ⟨htext, hrest⟩ := List.forall_mem_cons.1 hbar
    rw [List.mapM_cons] at h
    obtain ⟨ps, hps, h⟩ := bind_eq_ok.1 h
    obtain ⟨others, hothers, h⟩ := bind_eq_ok.1 h
    cases h
    obtain ⟨hlength, heach⟩ := ih hrest hothers
    exact ⟨congrArg (· + 1) hlength,
      List.forall_mem_cons.2 ⟨readPieces_canonical_of_notMem htext hps, heach⟩⟩

section ReadingSegments

variable {t : Template}

theorem readSegments_cons (c : Char) (text : List Char) :
    readSegments (c :: text) = token false c text >>= fun
      | (.char d, after) => (readSegments after).map (prependText d)
      | (.braces content, after) => do
        let slot ← readSlot content
        let ss ← readSegments after
        return .piece slot :: ss
      | (.angles content, after) => do
        let options ← (pieces (· == '|') content).mapM readPieces
        let ss ← readSegments after
        return .choice options :: ss := by
  rw [readSegments]
  split
  all_goals
    rename_i hread
    rw [hread]
    rfl

/-- Segments read back as themselves. -/
theorem readSegments_write (h : Canonical t) : readSegments (t.flatMap Segment.write) = .ok t := by
  induction t with
  | nil => rw [List.flatMap_nil, readSegments]
  | cons s ss ih =>
    obtain ⟨hs, hnext, hss⟩ := h.of_cons
    rw [List.flatMap_cons]
    rcases s with (text | ⟨role, path⟩) | options
    · have hstep : ∀ c text after, token false c text = .ok (.char c, after) →
          readSegments (c :: text) = (readSegments after).map (prependText c) := by
        intro c text after htoken
        rw [readSegments_cons, htoken, ok_bind]
      rw [Segment.write, Piece.write, read_flatMap_writeChar hstep (Piece.Canonical.ne_angles hs), ih hss]
      exact congrArg Except.ok (prependText_prepends.foldr hs.1 (hnext rfl))
    · rw [Segment.write, write_slot, List.cons_append, List.append_assoc, List.singleton_append,
        readSegments_cons, token_slot, ok_bind]
      dsimp only
      rw [readSlot_slotText hs, ok_bind, ih hss]
      rfl
    · obtain ⟨hne, hoptions⟩ := hs
      rw [Segment.write, List.cons_append, List.cons_append, List.append_assoc, List.singleton_append,
        readSegments_cons, token_angles (notMem_choice hoptions), ok_bind]
      dsimp only
      rw [mapM_readPieces_choice hoptions hne, ok_bind, ih hss]
      rfl

/-- Whatever is read is canonical. -/
theorem readSegments_canonical (text : List Char) : ∀ t, readSegments text = .ok t → Canonical t := by
  induction text using readSegments.induct with
  | case1 =>
    intro t h
    rw [readSegments] at h
    cases h
    exact .nil
  | case2 c text e hread =>
    intro t h
    rw [readSegments_cons, hread] at h
    cases h
  | case3 c text d after hread ih =>
    intro t h
    obtain ⟨hd, -, -⟩ := of_token_char hread
    rw [readSegments_cons, hread, ok_bind] at h
    dsimp only at h
    obtain ⟨ss, hss, rfl⟩ := map_eq_ok.1 h
    refine prependText_prepends.composed ?_ ?_ (ih ss hss)
    · exact Piece.canonical_cons hd (by simp) (by simp)
    · rintro front ⟨-, hopen, hclose⟩
      exact Piece.canonical_cons hd hopen hclose
  | case4 c text content after hread ih =>
    intro t h
    rw [readSegments_cons, hread, ok_bind] at h
    obtain ⟨slot, hslot, h⟩ := bind_eq_ok.1 h
    obtain ⟨ss, hss, h⟩ := bind_eq_ok.1 h
    cases h
    obtain ⟨hcanonical, hliteral, -⟩ := of_readSlot hslot
    exact .cons hcanonical (fun h => absurd (hliteral.symm.trans h) Bool.false_ne_true) (ih ss hss)
  | case5 c text content after hread ih =>
    intro t h
    rw [readSegments_cons, hread, ok_bind] at h
    obtain ⟨options, hoptions, h⟩ := bind_eq_ok.1 h
    obtain ⟨ss, hss, h⟩ := bind_eq_ok.1 h
    cases h
    -- The options are told apart before they are read, so that no bar is left to get into their texts.
    have hbar : ∀ text ∈ pieces (· == '|') content, '|' ∉ text := fun text htext hbar =>
      absurd (not_separates_of_mem_pieces content text htext '|' hbar) (by decide)
    obtain ⟨hlength, heach⟩ := mapM_readPieces_canonical hbar hoptions
    refine .cons ⟨?_, heach⟩ (fun h => absurd h Bool.false_ne_true) (ih ss hss)
    rintro rfl
    exact pieces_ne_nil _ content (List.length_eq_zero_iff.1 hlength.symm)

end ReadingSegments

/-- Writing and reading are inverse to each other on the canonical templates: each of them reads back from what
it is written as, and there are no others to read. -/
theorem parse_write : (∀ t : Template, Canonical t → parse (write t) = .ok t) ∧
    ∀ (source : String) (t : Template), parse source = .ok t → Canonical t := by
  refine ⟨fun t h => ?_, fun source t h => readSegments_canonical source.toList t h⟩
  rw [parse, write, String.toList_ofList]
  exact readSegments_write h

/-- Braces of the text beside those of a slot, and a choice to say nothing. -/
def threshold : Template :=
  [.piece (.literal "at \x7b".toList), .piece (.slot .setting [.home, .name]),
    .piece (.literal "\x7d | ".toList), .choice [[], [.slot .subject [.pronoun], .literal ['!']]]]

theorem parse_write_threshold :
    Canonical threshold ∧ parse (write threshold) = .ok threshold ∧
      parse "at \x7b\x7b\x7bsetting.home.name\x7d\x7d\x7d | <|\x7bsubj.she\x7d!>" = .ok threshold := by
  have hread : parse "at \x7b\x7b\x7bsetting.home.name\x7d\x7d\x7d | <|\x7bsubj.she\x7d!>" = .ok threshold := by
    decide +kernel
  have hcanonical : Canonical threshold := parse_write.2 _ _ hread
  exact ⟨hcanonical, parse_write.1 _ hcanonical, hread⟩

end SpaceOpera.Template
