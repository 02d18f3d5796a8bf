/-!
# Values in object notation

World and configuration files are written in RON: records in round brackets with optional names, lists
in square ones, maps in braces, optional values, and plain scalars.  A file is one value, in front of
which it may switch extensions on.

How a text is read depends on what is expected of it, which is said by a shape.  What nobody asks for
has only to be well formed.
-/

namespace SpaceOpera.Ron

/-- What is expected at a place of a document. -/
inductive Shape where
  /-- Anything well formed; what it says does not matter. -/
  | any
  | bool
  /-- A whole number without a sign. -/
  | whole
  | string
  /-- A name alone. -/
  | name
  | list (item : Shape)
  | option (item : Shape)
  | pair (first second : Shape)
  /-- A record with the fields that matter; the name may be left out. -/
  | record (name : String) (fields : List (String × Shape))
deriving Inhabited

/-- What a document says at a place where it matters. -/
inductive Value where
  | bool (b : Bool)
  | whole (n : Nat)
  | string (s : String)
  | name (s : String)
  | list (vs : List Value)
  | option (v : Option Value)
  | pair (first second : Value)
  | record (fields : List (String × Value))
  /-- Something that does not matter. -/
  | other
deriving Inhabited

/-- Why a text cannot be read. -/
inductive Fault where
  | unexpectedEnd
  | unexpected (c : Char)
  | trailing
  | tooDeep
  | badAttribute
  | badExtension (name : String)
  | badComment
  | badIdentifier
  | badNumber
  | badString
  | badEscape
  | badChar
  | expectedComma
  | expectedColon
  | expectedClosing (c : Char)
  | wrongType (expected : String)
  | wrongName (expected found : String)
  | unknownName (s : String)
  | outOfRange (n : Nat)
  | missingField (s : String)
  | duplicateField (s : String)
deriving DecidableEq, Repr

/-- The text of the reason. -/
def Fault.message : Fault → String
  | unexpectedEnd => "Unexpected end of RON"
  | unexpected c => s!"Unexpected character '{c}'"
  | trailing => "Non-whitespace trailing characters"
  | tooDeep => "Exceeded recursion limit"
  | badAttribute => "Expected an `#![enable(...)]` attribute"
  | badExtension name => s!"No RON extension named `{name}`"
  | badComment => "Unclosed block comment"
  | badIdentifier => "Expected identifier"
  | badNumber => "Expected number"
  | badString => "Expected string"
  | badEscape => "Invalid escape sequence"
  | badChar => "Expected char"
  | expectedComma => "Expected comma"
  | expectedColon => "Expected colon"
  | expectedClosing c => s!"Expected closing '{c}'"
  | wrongType expected => s!"Expected {expected}"
  | wrongName expected found => s!"Expected struct `{expected}` but found `{found}`"
  | unknownName s => s!"Unexpected variant `{s}`"
  | outOfRange n => s!"Integer {n} is out of bounds"
  | missingField s => s!"Unexpected missing field `{s}`"
  | duplicateField s => s!"Unexpected duplicate field `{s}`"

/-- What a file can switch on. -/
structure Extensions where
  /-- An optional value may be written without `Some`, and `Some` without brackets. -/
  implicitSome : Bool := false

end SpaceOpera.Ron
