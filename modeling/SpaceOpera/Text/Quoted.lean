import SpaceOpera.Text.Unprintable

/-!
# Quoted text

Text between double quotes on one line, as diagnostics show it.  A quote, a backslash and the common
controls have escapes of two characters, any other character that shows nothing of its own is written
as its number, and all else stands for itself.  So all of a quoted text shows, whatever the text is
(`printable_quote`), and no line breaks within it.
-/

namespace SpaceOpera.Text

/-- The digit of a number below sixteen. -/
def hexDigit (n : Nat) : Char :=
  ['0', '1', '2', '3', '4', '5', '6', '7', '8', '9', 'a', 'b', 'c', 'd', 'e', 'f'].getD n '0'

/-- The digits of a code point in base sixteen, without leading zeros. -/
def hexDigits (n : Nat) : List Char :=
  ([5, 4, 3, 2, 1, 0].map fun k => hexDigit ((n >>> (4 * k)) % 16)).dropWhile (· == '0')

/-- How a character is written between quotes. -/
def quoteChar (c : Char) : List Char :=
  if c = '\x00' then ['\\', '0']
  else if c = '\t' then ['\\', 't']
  else if c = '\r' then ['\\', 'r']
  else if c = '\n' then ['\\', 'n']
  else if c = '"' then ['\\', '"']
  else if c = '\\' then ['\\', '\\']
  else if isUnprintable c then ['\\', 'u', '{'] ++ hexDigits c.toNat ++ ['}']
  else [c]

theorem hexDigit_printable (n : Nat) : isUnprintable (hexDigit (n % 16)) = false := by
  have small : ∀ k : Fin 16, isUnprintable (hexDigit k.val) = false := by decide
  exact small ⟨n % 16, Nat.mod_lt _ (by decide)⟩

theorem printable_of_all {cs : List Char} (h : (cs.all fun b => !isUnprintable b) = true) :
    ∀ b ∈ cs, isUnprintable b = false := by
  simpa using h

/-- What is written for a character shows, whatever the character is. -/
theorem printable_quoteChar (c : Char) : ∀ b ∈ quoteChar c, isUnprintable b = false := by
  have digits : ∀ b ∈ hexDigits c.toNat, isUnprintable b = false := by
    intro b hb
    have := (List.dropWhile_suffix _).subset hb
    simp only [List.mem_map] at this
    obtain ⟨k, -, rfl⟩ := this
    exact hexDigit_printable _
  have numbered : ∀ b ∈ ['\\', 'u', '{'] ++ hexDigits c.toNat ++ ['}'], isUnprintable b = false := by
    rw [List.forall_mem_append, List.forall_mem_append]
    exact ⟨⟨printable_of_all (by decide), digits⟩, printable_of_all (by decide)⟩
  unfold quoteChar
  by_cases shown : isUnprintable c = true
  · rw [if_pos shown]
    repeat' split
    all_goals first
      | exact numbered
      | exact printable_of_all (by decide)
  · have itself : ∀ b ∈ [c], isUnprintable b = false := by simpa using shown
    rw [if_neg shown]
    repeat' split
    all_goals first
      | exact itself
      | exact printable_of_all (by decide)

/-- The text between double quotes. -/
def quote (s : String) : String :=
  String.ofList (['"'] ++ s.toList.flatMap quoteChar ++ ['"'])

/-- The texts quoted, between square brackets. -/
def quoteList (ss : List String) : String :=
  "[" ++ ", ".intercalate (ss.map quote) ++ "]"

/-- A text of characters that all show something of their own. -/
def Printable (s : String) : Prop :=
  ∀ c ∈ s.toList, isUnprintable c = false

instance (s : String) : Decidable (Printable s) :=
  decidable_of_iff ((s.toList.all fun c => !isUnprintable c) = true) (by simp [Printable])

namespace Printable

variable {s t : String}

theorem append (hs : Printable s) (ht : Printable t) : Printable (s ++ t) := by
  intro c hc
  rw [String.toList_append, List.mem_append] at hc
  exact hc.elim (hs c) (ht c)

theorem intercalate {ss : List String} (hs : Printable s) (hss : ∀ t ∈ ss, Printable t) :
    Printable (s.intercalate ss) := by
  induction ss with
  | nil => simp [Printable]
  | cons t ts ih =>
    obtain ⟨ht, hts⟩ := List.forall_mem_cons.1 hss
    cases ts with
    | nil => simpa using ht
    | cons u us =>
      rw [String.intercalate_cons_cons]
      exact (ht.append hs).append (ih hts)

theorem notMem {b : Char} (h : Printable s) (hb : isUnprintable b = true) : b ∉ s.toList := by
  intro hmem
  rw [h b hmem] at hb
  cases hb

end Printable

theorem printable_quote (s : String) : Printable (quote s) := by
  unfold Printable quote
  rw [String.toList_ofList, List.forall_mem_append, List.forall_mem_append]
  refine ⟨⟨printable_of_all (by decide), fun b hb => ?_⟩, printable_of_all (by decide)⟩
  obtain ⟨c, -, hb⟩ := List.mem_flatMap.1 hb
  exact printable_quoteChar c b hb

theorem printable_quoteList (ss : List String) : Printable (quoteList ss) := by
  have brackets : Printable "[" ∧ Printable ", " ∧ Printable "]" := by decide
  refine (brackets.1.append (brackets.2.1.intercalate ?_)).append brackets.2.2
  simp [printable_quote]

end SpaceOpera.Text
