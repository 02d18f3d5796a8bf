import SpaceOpera.Template.Property
import SpaceOpera.Text.Words
import SpaceOpera.Tree.Role

/-!
# Templates

A template is text with slots, `{role.property.property}`, and with choices, `<one|another>`, of which
one option is taken; braces that stand for themselves are doubled.  The options of a choice hold text
and slots but no choices, so a template is a list of segments two levels deep.

`parse` reads a template and `write` writes one out with the full names of roles and properties.
-/

namespace SpaceOpera

open SpaceOpera.Text

namespace Template

/-- Text, or a place to fill in. -/
inductive Piece where
  | literal (text : List Char)
  | slot (role : Role) (path : List Property)
deriving DecidableEq, Repr

/-- A piece, or options to choose one of. -/
inductive Segment where
  | piece (p : Piece)
  | choice (options : List (List Piece))
deriving DecidableEq, Repr

end Template

/-- A template in its parts. -/
abbrev Template := List Template.Segment

namespace Template

/-- Why a text is no template. -/
inductive Fault where
  | unclosedBrace
  | nestedBraces
  | unmatchedBrace
  | nestedChoice
  | unclosedChoice
  | unmatchedAngle
  | emptySlot
  | unknownRole (name : String)
  | unknownProperty (name : String)
  | noProperty (slot : String)
deriving DecidableEq, Repr

/-- The text of the reason. -/
def Fault.message : Fault → String
  | unclosedBrace => "unclosed brace"
  | nestedBraces => "nested braces are not allowed"
  | unmatchedBrace => "unmatched closing brace"
  | nestedChoice => "nested alternation"
  | unclosedChoice => "unclosed alternation"
  | unmatchedAngle => "unmatched '>'"
  | emptySlot => "empty slot"
  | unknownRole name => s!"unknown role '{name}'"
  | unknownProperty name => s!"unknown attribute '{name}'"
  | noProperty slot => s!"slot '{slot}' names no attribute"

/-! ## Reading -/

/-- What a template shows next: a character of its text, what braces enclose, or what angles
enclose. -/
inductive Token where
  | char (c : Char)
  | braces (content : List Char)
  | angles (content : List Char)

/-- The text up to the first `stop`, and what follows it. -/
def upTo? (stop : Char) : List Char → Option (List Char × List Char)
  | [] => none
  | c :: text =>
    if c = stop then some ([], text)
    else (upTo? stop text).map fun found => (c :: found.1, found.2)

theorem upTo?_eq_some_iff {stop : Char} {text content after : List Char} :
    upTo? stop text = some (content, after) ↔
      text = content ++ stop :: after ∧ stop ∉ content := by
  induction text generalizing content with
  | nil => simp [upTo?]
  | cons c text ih =>
    unfold upTo?
    split
    · rename_i h
      subst h
      constructor
      · rintro ⟨⟩
        simp
      · rintro ⟨h, k⟩
        cases content with
        | nil => simp_all
        | cons d content => simp_all
    · rename_i h
      constructor
      · intro found
        obtain ⟨⟨front, rest⟩, split, same⟩ := Option.map_eq_some_iff.1 found
        cases same
        obtain ⟨rfl, k⟩ := ih.1 split
        simp [k, Ne.symm h]
      · rintro ⟨same, k⟩
        cases content with
        | nil => simp_all
        | cons d content =>
          simp only [List.cons_append, List.cons.injEq] at same
          obtain ⟨rfl, rfl⟩ := same
          rw [ih.2 ⟨rfl, fun m => k (List.mem_cons_of_mem _ m)⟩]
          rfl

theorem length_of_upTo? {stop : Char} {text content after : List Char}
    (h : upTo? stop text = some (content, after)) :
    content.length + after.length < text.length := by
  obtain ⟨rfl, -⟩ := upTo?_eq_some_iff.1 h
  simp

/-- The first token of a text that starts with `c`, and what follows it.  Inside a choice no other
choice may start. -/
def token (inChoice : Bool) (c : Char) (text : List Char) : Except Fault (Token × List Char) :=
  match c, text with
  | '{', '{' :: after => .ok (.char '{', after)
  | '}', '}' :: after => .ok (.char '}', after)
  | '{', text =>
    match upTo? '}' text with
    | none => .error .unclosedBrace
    | some (content, after) =>
      if content.contains '{' then .error .nestedBraces else .ok (.braces content, after)
  | '}', _ => .error .unmatchedBrace
  | '<', text =>
    if inChoice then .error .nestedChoice
    else
      match upTo? '>' text with
      | none => .error .unclosedChoice
      | some (content, after) => .ok (.angles content, after)
  | '>', _ => .error .unmatchedAngle
  | c, text => .ok (.char c, text)

theorem length_of_token {inChoice : Bool} {c : Char} {text after : List Char} {t : Token}
    (h : token inChoice c text = .ok (t, after)) : after.length ≤ text.length := by
  unfold token at h
  repeat' split at h
  all_goals first
    | cases h; done
    | (cases h
       first
         | exact Nat.le_refl _
         | simp
         | (have shorter := length_of_upTo? ‹_›; omega))

/-- Reads the inside of a slot: a role and at least one property, with dots between them. -/
def readSlot (content : List Char) : Except Fault Piece :=
  match (pieces (· == '.') content).map String.ofList with
  | [] => .error .emptySlot
  | head :: parts =>
    if head.isEmpty then .error .emptySlot
    else
      match Role.parse? head with
      | none => .error (.unknownRole head)
      | some role => do
        let path ← parts.mapM fun part =>
          match Property.parse? part with
          | none => .error (.unknownProperty part)
          | some p => .ok p
        if path.isEmpty then .error (.noProperty (String.ofList content))
        else .ok (.slot role path)

/-- Puts a character in front of pieces, into the first text if that comes first. -/
def prependChar (c : Char) : List Piece → List Piece
  | .literal text :: ps => .literal (c :: text) :: ps
  | ps => .literal [c] :: ps

/-- Reads text and slots. -/
def readPieces (text : List Char) : Except Fault (List Piece) :=
  match text with
  | [] => .ok []
  | c :: text =>
    match _read : token true c text with
    | .error e => .error e
    | .ok (.char c, after) => (readPieces after).map (prependChar c)
    | .ok (.braces content, after) => do
      let slot ← readSlot content
      let ps ← readPieces after
      return slot :: ps
    | .ok (.angles _, _) => .error .nestedChoice
termination_by text.length
decreasing_by
  all_goals
    have := length_of_token _read
    simp only [List.length_cons]
    omega

/-- Puts a character in front of segments, into the first text if that comes first. -/
def prependText (c : Char) : List Segment → List Segment
  | .piece (.literal text) :: ss => .piece (.literal (c :: text)) :: ss
  | ss => .piece (.literal [c]) :: ss

/-- Reads text, slots and choices; the first fault from the left is reported. -/
def readSegments (text : List Char) : Except Fault Template :=
  match text with
  | [] => .ok []
  | c :: text =>
    match _read : token false c text with
    | .error e => .error e
    | .ok (.char c, after) => (readSegments after).map (prependText c)
    | .ok (.braces content, after) => do
      let slot ← readSlot content
      let ss ← readSegments after
      return .piece slot :: ss
    | .ok (.angles content, after) => do
      let options ← (pieces (· == '|') content).mapM readPieces
      let ss ← readSegments after
      return .choice options :: ss
termination_by text.length
decreasing_by
  all_goals
    have := length_of_token _read
    simp only [List.length_cons]
    omega

/-- Reads a template. -/
def parse (source : String) : Except Fault Template :=
  readSegments source.toList

/-! ## Writing -/

/-- A character of text, with braces doubled. -/
def writeChar (c : Char) : List Char :=
  if c = '{' ∨ c = '}' then [c, c] else [c]

/-- A piece as a template has it. -/
def Piece.write : Piece → List Char
  | literal text => text.flatMap writeChar
  | slot role path =>
    '{' :: role.name.toList ++ path.flatMap (fun p => '.' :: p.spelling.toList) ++ ['}']

/-- A segment as a template has it. -/
def Segment.write : Segment → List Char
  | piece p => p.write
  | choice options =>
    '<' :: ['|'].intercalate (options.map fun ps => ps.flatMap Piece.write) ++ ['>']

/-- Writes a template out. -/
def write (t : Template) : String :=
  String.ofList (t.flatMap Segment.write)

/-! ## What a template refers to -/

/-- The role of a slot. -/
def Piece.roles : Piece → List Role
  | literal _ => []
  | slot role _ => [role]

/-- The roles of the slots of a segment, those in every option included. -/
def Segment.roles : Segment → List Role
  | piece p => p.roles
  | choice options => options.flatMap fun ps => ps.flatMap Piece.roles

/-- The roles of all slots, in order and with repetitions. -/
def roles (t : Template) : List Role :=
  t.flatMap Segment.roles

end Template

end SpaceOpera
