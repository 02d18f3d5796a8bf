import Mathlib.Data.List.Forall2
import SpaceOpera.Plot.Basic
import SpaceOpera.Proofs.Template.Writing
import SpaceOpera.Story.Kind

/-!
# What a dump shows of a tree

A dump has a line for every node, in preorder and indented by twice its depth, whatever the names in the
tree are: all of a line shows, so that no line breaks within.  A line tells the depth of its node from its
summary, and the lines below a node end where the next one of its depth begins, so that two trees with one
dump have the same shape and the same summaries (`dump_legible`).
-/

namespace SpaceOpera

open Text

/-! ## Lines of a text -/

namespace Text

theorem toList_unlines (ls : List String) :
    (unlines ls).toList = ls.flatMap fun l => l.toList ++ ['\n'] := by
  simp [unlines, String.toList_join, List.flatMap_map]

theorem pieces_unlines {ls : List String} (h : ∀ l ∈ ls, Printable l) :
    pieces (· == '\n') (unlines ls).toList = ls.map String.toList ++ [[]] := by
  rw [toList_unlines]
  induction ls with
  | nil => rfl
  | cons l ls ih =>
    obtain ⟨hl, hls⟩ := List.forall_mem_cons.1 h
    have hfree : ∀ c ∈ l.toList, (c == '\n') = false := by
      intro c hc
      simp only [beq_eq_false_iff_ne, ne_eq]
      rintro rfl
      exact hl.notMem (by decide) hc
    have hrest : pieces (· == '\n') ('\n' :: ls.flatMap fun l => l.toList ++ ['\n']) =
        [] :: (ls.map String.toList ++ [[]]) := by
      rw [pieces_cons, if_pos BEq.rfl, ih hls]
    rw [List.flatMap_cons, List.append_assoc, List.singleton_append, Template.pieces_append hfree hrest]
    simp

/-- Lines that show all they hold are read back from their text. -/
theorem lines_unlines {ls : List String} (h : ∀ l ∈ ls, Printable l) : lines (unlines ls) = ls := by
  have hkept : ∀ l ∈ ls,
      (if l.toList.getLast? == some '\r' then l.toList.dropLast else l.toList) = l.toList := by
    intro l hl
    rw [if_neg]
    intro hlast
    exact (h l hl).notMem (by decide) (List.mem_of_getLast? (beq_iff_eq.1 hlast))
  unfold lines
  rw [pieces_unlines h]
  have hlast : (ls.map String.toList ++ [[]]).getLast? = some [] := by simp
  simp only [hlast, List.dropLast_concat, List.map_map]
  refine (List.map_congr_left fun l hl => ?_).trans (List.map_id ls)
  rw [Function.comp_apply, Function.comp_apply, hkept l hl, String.ofList_toList, id]

end Text

/-! ## Values on a line -/

section Values

theorem Object.printable_debug (o : Object) : Printable o.debug :=
  ((show Printable "Object(" by decide).append (printable_quoteList o.names)).append (by decide)

theorem printable_objects (os : List Object) : Printable (", ".intercalate (os.map Object.debug)) := by
  exact .intercalate (by decide) (List.forall_mem_map.2 fun o _ => o.printable_debug)

theorem Group.printable_debug (g : Group) : Printable g.debug :=
  ((show Printable "[" by decide).append (printable_objects g.members)).append (by decide)

theorem Roster.printable_debug (r : Roster) : Printable r.debug :=
  ((show Printable "\x7b" by decide).append (printable_objects r.members)).append (by decide)

theorem printable_field? {α : Type} {field : α → String} (h : ∀ a, Printable (field a))
    (a? : Option α) : ∀ t ∈ (a?.map field).toList, Printable t := by
  cases a? with
  | none => nofun
  | some a => simpa using h a

theorem printable_ite {p : Prop} [Decidable p] {fields fields' : List String}
    (h : ∀ t ∈ fields, Printable t) (h' : ∀ t ∈ fields', Printable t) :
    ∀ t ∈ (if p then fields else fields'), Printable t := by
  split
  · exact h
  · exact h'

theorem Mood.printable_name (m : Mood) : Printable m.name := by
  cases m <;> decide

theorem State.printable_debug (s : State) : Printable s.debug := by
  have hobject : ∀ {name : String}, Printable name → ∀ o : Object, Printable (name ++ o.debug) :=
    fun hname o => hname.append o.printable_debug
  have hduties : Printable ("duties: " ++ s.duties.debug) :=
    .append (by decide) s.duties.printable_debug
  have hframe : Printable "State \x7b " ∧ Printable " \x7d" := by decide
  unfold State.debug
  refine (hframe.1.append (.intercalate (by decide) ?_)).append hframe.2
  simp only [List.forall_mem_append]
  refine ⟨⟨⟨⟨⟨⟨⟨⟨?object, ?referent⟩, ?first⟩, ?mood⟩, ?location⟩, ?duties⟩, ?torso⟩, ?legs⟩,
    ?feet⟩
  case object => simpa using hobject (by decide) s.object
  case referent | first => exact printable_ite (by decide) nofun
  case mood => exact printable_field? (fun m => .append (by decide) m.printable_name) _
  case duties => exact printable_ite nofun (by simpa using hduties)
  case location | torso | legs | feet => exact printable_field? (fun o => hobject (by decide) o) _

theorem Value.printable_debug (v : Value) : Printable v.debug := by
  cases v with
  | object o => exact o.printable_debug
  | group g => exact g.printable_debug
  | state s => exact s.printable_debug

end Values

/-! ## Summaries -/

/-- Kinds whose names show as a whole, from a first character that is no space. -/
class LegibleKind (κ : Type) [NodeKind κ] : Prop where
  printable : ∀ k : κ, Printable (NodeKind.debug k)
  flush : ∀ k : κ, (NodeKind.debug k).toList.head? ≠ some ' '

instance : LegibleKind PlotKind where
  printable k := by
    cases k with
    | sequence => decide
    | hole rules =>
      have hrule : ∀ r : Rule, Printable r.name := by intro r; cases r <;> decide
      have hrules : Printable (", ".intercalate (rules.map Rule.name)) :=
        .intercalate (by decide) (List.forall_mem_map.2 fun r _ => hrule r)
      exact ((show Printable "Hole([" by decide).append hrules).append (by decide)
    | development d =>
      have hname : Printable d.name := by cases d <;> decide +kernel
      exact ((show Printable "Development(" by decide).append hname).append (by decide)
  flush k := by
    cases k with
    | sequence => decide
    | hole rules => simp [NodeKind.debug]
    | development d => simp [NodeKind.debug]

instance : LegibleKind StoryKind where
  printable k := by
    cases k with
    | event e =>
      have hname : Printable e.name := by cases e <;> decide +kernel
      exact ((show Printable "Event(" by decide).append hname).append (by decide)
    | _ => decide
  flush k := by
    cases k with
    | event e => simp [NodeKind.debug]
    | _ => decide

/-! ## Cutting a list -/

/-- A list is cut in one way into a front with a property and a rest that does not begin with it. -/
theorem append_inj_of_head {α : Type} {P : α → Prop} {front front' rest rest' : List α}
    (hfront : ∀ a ∈ front, P a) (hfront' : ∀ a ∈ front', P a) (hrest : ∀ a ∈ rest.head?, ¬P a)
    (hrest' : ∀ a ∈ rest'.head?, ¬P a) (h : front ++ rest = front' ++ rest') :
    front = front' ∧ rest = rest' := by
  induction front generalizing front' with
  | nil =>
    cases front' with
    | nil => exact ⟨rfl, h⟩
    | cons b front' =>
      rw [List.nil_append] at h
      exact absurd (hfront' b List.mem_cons_self) (hrest b (by simp [h]))
  | cons a front ih =>
    obtain ⟨ha, hfront⟩ := List.forall_mem_cons.1 hfront
    cases front' with
    | nil =>
      rw [List.nil_append] at h
      exact absurd ha (hrest' a (by simp [← h]))
    | cons b front' =>
      rw [List.cons_append, List.cons_append, List.cons.injEq] at h
      obtain ⟨-, hfront'⟩ := List.forall_mem_cons.1 hfront'
      obtain ⟨htail, hrests⟩ := ih hfront hfront' h.2
      exact ⟨by rw [h.1, htail], hrests⟩

namespace Node

variable {κ : Type}

/-! ## The outline of a tree -/

mutual

/-- The nodes in preorder, each with its depth. -/
def outline : Node κ → List (Nat × Node κ)
  | ⟨k, a, cs⟩ => (0, ⟨k, a, cs⟩) :: (outlineList cs).map fun e => (e.1 + 1, e.2)

/-- The outlines of several trees. -/
def outlineList : List (Node κ) → List (Nat × Node κ)
  | [] => []
  | c :: cs => outline c ++ outlineList cs

end

theorem outlineList_eq_flatMap (cs : List (Node κ)) : outlineList cs = cs.flatMap outline := by
  induction cs with
  | nil => rw [outlineList]; rfl
  | cons c cs ih => rw [outlineList, List.flatMap_cons, ih]

theorem outline_mk (k : κ) (a : Attributes) (cs : List (Node κ)) :
    outline ⟨k, a, cs⟩ = (0, ⟨k, a, cs⟩) :: (cs.flatMap outline).map fun e => (e.1 + 1, e.2) := by
  rw [outline, outlineList_eq_flatMap]

theorem map_outline (n : Node κ) : n.outline.map Prod.snd = n.preorder := by
  induction n using Node.induction with
  | mk k a cs ih =>
    rw [outline_mk, preorder_mk, preorderList_eq_flatMap, List.map_cons, List.map_map, List.map_flatMap]
    congr 1
    exact List.flatMap_congr ih

/-! ## Lines of a dump -/

section Dump

variable [NodeKind κ]

/-- A summary behind twice its depth in spaces. -/
def indented (depth : Nat) (summary : String) : String :=
  String.ofList (List.replicate (2 * depth) ' ') ++ summary

/-- The outline with only the summary of each node. -/
def rows (n : Node κ) : List (Nat × String) :=
  n.outline.map fun e => (e.1, e.2.summary)

theorem dumpLinesList_eq_flatMap (d : Nat) (cs : List (Node κ)) :
    dumpLinesList d cs = cs.flatMap (dumpLines d) := by
  induction cs with
  | nil => rw [dumpLinesList]; rfl
  | cons c cs ih => rw [dumpLinesList, List.flatMap_cons, ih]

theorem dumpLines_eq_map (n : Node κ) (d : Nat) :
    n.dumpLines d = n.outline.map fun e => indented (d + e.1) e.2.summary := by
  induction n using Node.induction generalizing d with
  | mk k a cs ih =>
    rw [dumpLines, dumpLinesList_eq_flatMap, outline_mk, List.map_cons, List.map_map, List.map_flatMap]
    congr 1
    refine List.flatMap_congr fun c hc => ?_
    rw [ih c hc (d + 1)]
    refine List.map_congr_left fun e _ => ?_
    rw [Function.comp_apply, Nat.add_right_comm, Nat.add_assoc]

theorem dump_eq_map (n : Node κ) : n.dump = n.outline.map fun e => indented e.1 e.2.summary := by
  simp [dump, dumpLines_eq_map]

section Legible

variable [LegibleKind κ]

theorem printable_summary (n : Node κ) : Printable n.summary := by
  have hkind := LegibleKind.printable n.kind
  have hrole : ∀ r : Role, Printable r.name := by intro r; cases r <;> decide
  unfold summary
  split
  · exact hkind
  · refine ((hkind.append (by decide)).append (.intercalate (by decide) ?_)).append (by decide)
    rw [List.forall_mem_map]
    exact fun e _ => ((hrole e.1).append (by decide)).append e.2.printable_debug

theorem flush_summary (n : Node κ) : n.summary.toList.head? ≠ some ' ' := by
  have hkind := LegibleKind.flush n.kind
  unfold summary
  split
  · exact hkind
  · simp only [String.toList_append, List.append_assoc, List.head?_append]
    cases hhead : (NodeKind.debug n.kind).toList.head? with
    | none => simp
    | some c => simpa [hhead] using hkind

theorem printable_dump (n : Node κ) : ∀ l ∈ n.dump, Printable l := by
  rw [dump_eq_map]
  simp only [List.forall_mem_map]
  intro e _
  refine Printable.append (fun c hc => ?_) e.2.printable_summary
  rw [String.toList_ofList] at hc
  rw [List.eq_of_mem_replicate hc]
  decide

/-- A line tells the depth from the summary. -/
theorem indented_eq_iff {d d' : Nat} {n m : Node κ} :
    indented d n.summary = indented d' m.summary ↔ d = d' ∧ n.summary = m.summary := by
  have hspaces : ∀ d, ∀ c ∈ List.replicate (2 * d) ' ', c = ' ' :=
    fun _ _ hc => List.eq_of_mem_replicate hc
  have hflush : ∀ n : Node κ, ∀ c ∈ n.summary.toList.head?, c ≠ ' ' := by
    rintro n c hc rfl
    exact n.flush_summary hc
  constructor
  · intro h
    unfold indented at h
    rw [← String.toList_inj, String.toList_append, String.toList_append, String.toList_ofList,
      String.toList_ofList] at h
    obtain ⟨hindent, hsummary⟩ := append_inj_of_head (hspaces d) (hspaces d') (hflush n) (hflush m) h
    have hlength := congrArg List.length hindent
    simp only [List.length_replicate] at hlength
    exact ⟨by omega, String.toList_inj.1 hsummary⟩
  · rintro ⟨rfl, hsummary⟩
    rw [hsummary]

theorem dump_eq_iff {n m : Node κ} : n.dump = m.dump ↔ n.rows = m.rows := by
  unfold rows
  rw [dump_eq_map, dump_eq_map, ← List.forall₂_eq_eq_eq, ← List.forall₂_eq_eq_eq]
  simp only [List.forall₂_map_left_iff, List.forall₂_map_right_iff, indented_eq_iff, Prod.mk.injEq]

end Legible

/-! ## Trees from rows -/

/-- Two trees of one shape, with the same summary on every node and its counterpart. -/
@[mk_iff]
inductive Resembles : Node κ → Node κ → Prop
  | mk {n m : Node κ} :
    n.summary = m.summary → List.Forall₂ Resembles n.children m.children → Resembles n m

theorem rows_mk (k : κ) (a : Attributes) (cs : List (Node κ)) :
    rows ⟨k, a, cs⟩ =
      (0, summary ⟨k, a, cs⟩) :: (cs.flatMap rows).map fun r => (r.1 + 1, r.2) := by
  unfold rows
  rw [outline_mk, List.map_cons, List.map_map, List.map_flatMap, List.map_flatMap]
  simp only [List.map_map, Function.comp_def]

theorem head?_rows (n : Node κ) : n.rows.head? = some (0, n.summary) := by
  obtain ⟨k, a, cs⟩ := n
  rw [rows_mk, List.head?_cons]

theorem head?_flatMap_rows (cs : List (Node κ)) : ∀ r ∈ (cs.flatMap rows).head?, r.1 = 0 := by
  cases cs with
  | nil => nofun
  | cons c cs => simp [List.head?_append, head?_rows]

/-- Of trees next to each other, the first one ends before the next row at depth zero. -/
theorem rows_append_inj {c c' : Node κ} {cs cs' : List (Node κ)}
    (h : c.rows ++ cs.flatMap rows = c'.rows ++ cs'.flatMap rows) :
    c.rows = c'.rows ∧ cs.flatMap rows = cs'.flatMap rows := by
  obtain ⟨k, a, ds⟩ := c
  obtain ⟨k', a', ds'⟩ := c'
  rw [rows_mk, rows_mk, List.cons_append, List.cons_append, List.cons.injEq] at h
  have hdeeper : ∀ rs : List (Nat × String), ∀ r ∈ rs.map fun r => (r.1 + 1, r.2), r.1 ≠ 0 :=
    fun rs => List.forall_mem_map.2 fun r _ => Nat.succ_ne_zero r.1
  have htop : ∀ cs : List (Node κ), ∀ r ∈ (cs.flatMap rows).head?, ¬r.1 ≠ 0 :=
    fun cs r hr => not_not.2 (head?_flatMap_rows cs r hr)
  obtain ⟨hbelow, hrest⟩ := append_inj_of_head (hdeeper _) (hdeeper _) (htop cs) (htop cs') h.2
  rw [rows_mk, rows_mk, h.1, hbelow]
  exact ⟨rfl, hrest⟩

/-- The rows of several trees tell those of each. -/
theorem flatMap_rows_eq_iff {cs cs' : List (Node κ)} :
    cs.flatMap rows = cs'.flatMap rows ↔ cs.map rows = cs'.map rows := by
  constructor
  · intro h
    induction cs generalizing cs' with
    | nil =>
      cases cs' with
      | nil => rfl
      | cons c' cs' => simpa [head?_rows] using congrArg List.head? h
    | cons c cs ih =>
      cases cs' with
      | nil => simpa [head?_rows] using congrArg List.head? h
      | cons c' cs' =>
        obtain ⟨hc, hcs⟩ := rows_append_inj h
        rw [List.map_cons, List.map_cons, hc, ih hcs]
  · intro h
    rw [List.flatMap_def, List.flatMap_def, h]

theorem map_deeper_inj {rs rs' : List (Nat × String)} :
    rs.map (fun r => (r.1 + 1, r.2)) = rs'.map (fun r => (r.1 + 1, r.2)) ↔ rs = rs' := by
  refine List.map_inj_right fun r r' h => ?_
  simpa [Prod.ext_iff] using h

/-- Rows determine a tree, but for what the summaries leave out. -/
theorem rows_eq_iff {n m : Node κ} : n.rows = m.rows ↔ Resembles n m := by
  induction n using Node.induction generalizing m with
  | mk k a cs ih =>
    obtain ⟨k', a', cs'⟩ := m
    have hchildren : cs.map rows = cs'.map rows ↔ List.Forall₂ Resembles cs cs' := by
      rw [← List.forall₂_eq_eq_eq, List.forall₂_map_left_iff, List.forall₂_map_right_iff]
      constructor
      · intro h
        exact ((List.forall₂_and_left _ _).2 ⟨ih, h⟩).imp fun c c' hc => hc.1.1 hc.2
      · intro h
        exact ((List.forall₂_and_left _ _).2 ⟨ih, h⟩).imp fun c c' hc => hc.1.2 hc.2
    rw [rows_mk, rows_mk, List.cons.injEq, map_deeper_inj, flatMap_rows_eq_iff, hchildren, resembles_iff]
    simp

/-- What the text of a dump shows of the tree, beside that of another tree. -/
structure Legible (n m : Node κ) : Prop where
  /-- The outline has every node, in preorder. -/
  preorder : n.outline.map Prod.snd = n.preorder
  /-- The text has a line for each, behind twice its depth in spaces. -/
  lines : Text.lines (unlines n.dump) = n.outline.map fun e => indented e.1 e.2.summary
  /-- All of a line shows. -/
  printable : ∀ l ∈ Text.lines (unlines n.dump), Printable l
  /-- Only trees of the same shape and summaries have the same text. -/
  shape : unlines n.dump = unlines m.dump ↔ Resembles n m

theorem legible [LegibleKind κ] (n m : Node κ) : Legible n m where
  preorder := n.map_outline
  lines := (lines_unlines n.printable_dump).trans n.dump_eq_map
  printable := by
    rw [lines_unlines n.printable_dump]
    exact n.printable_dump
  shape := by
    rw [← rows_eq_iff, ← dump_eq_iff]
    constructor
    · intro h
      have hlines := congrArg Text.lines h
      rwa [lines_unlines n.printable_dump, lines_unlines m.printable_dump] at hlines
    · intro h
      rw [h]

end Dump

end Node

/-- The dump of a plot or a story has a line for every node, in preorder and indented by twice its depth,
whatever names, duties and moods its values show; and it determines the shape of the tree and the summary
of every node. -/
theorem dump_legible (plot plot' : PlotNode) (story story' : StoryNode) :
    Node.Legible plot plot' ∧ Node.Legible story story' :=
  ⟨Node.legible plot plot', Node.legible story story'⟩

/-- A name with a line break and a quote stays on the line of its node. -/
example :
    lines (unlines (StoryNode.scene (.thing ["the \"deck\"\n  below"]) [.ofEvent .becomeSad]).dump) =
      ["Scene(setting=Object([\"the \\\"deck\\\"\\n  below\"]))", "  Event(BecomeSad)"] := by
  decide

end SpaceOpera
