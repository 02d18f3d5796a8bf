import SpaceOpera.Ron.Value

/-!
# Reading object notation

A reader takes what it needs from the front of the text and leaves the rest.
-/

namespace SpaceOpera.Ron

/-- A computation that takes from the front of a text, and can fail.  It knows a bound on how much there
is to take. -/
abbrev Reader := ReaderT Nat (StateT (List Char) (Except Fault))

namespace Reader

/-- More steps than the text has characters. -/
def bound : Reader Nat := ReaderT.read

/-! ## Characters -/

/-- The first character, which stays. -/
def peek? : Reader (Option Char) := do
  return (← get).head?

/-- The first character, which has to be there and stays. -/
def peek : Reader Char := do
  match ← peek? with
  | some c => return c
  | none => throw .unexpectedEnd

/-- Takes the first character. -/
def next : Reader Char := do
  match ← get with
  | c :: rest =>
    set rest
    return c
  | [] => throw .unexpectedEnd

/-- Does `front` stand at the front? -/
def stands (front : String) : Reader Bool := do
  return front.toList.isPrefixOf (← get)

/-- Takes `front` from the front, if it stands there. -/
def accept (front : String) : Reader Bool := do
  if ← stands front then
    modify (·.drop front.length)
    return true
  else return false

/-- Takes `front`, which has to stand at the front. -/
def expect (front : String) (fault : Fault) : Reader Unit := do
  if !(← accept front) then
    throw fault

/-- Takes characters as long as they are of a kind. -/
def takeWhile (p : Char → Bool) : Reader (List Char) := do
  let text ← get
  set (text.dropWhile p)
  return text.takeWhile p

/-! ## Blanks and comments -/

/-- The blanks of the notation. -/
def isSpace (c : Char) : Bool :=
  c = ' ' || c = '\t' || c = '\n' || c = '\r'

/-- Where in blanks and comments a place is. -/
inductive Gap where
  | blank
  | line
  /-- Inside a block, with so many blocks around it. -/
  | block (depth : Nat)

/-- What follows blanks and comments. -/
def afterGap : Gap → List Char → Except Fault (List Char)
  | .blank, '/' :: '/' :: rest => afterGap .line rest
  | .blank, '/' :: '*' :: rest => afterGap (.block 0) rest
  | .blank, '/' :: _ => .error .badComment
  | .blank, c :: rest => if isSpace c then afterGap .blank rest else .ok (c :: rest)
  | .line, c :: rest => afterGap (if c = '\n' then .blank else .line) rest
  | .block depth, '*' :: '/' :: rest =>
    match depth with
    | 0 => afterGap .blank rest
    | depth + 1 => afterGap (.block depth) rest
  | .block depth, '/' :: '*' :: rest => afterGap (.block (depth + 1)) rest
  | .block depth, _ :: rest => afterGap (.block depth) rest
  | .block _, [] => .error .badComment
  | _, [] => .ok []

/-- Takes blanks and comments. -/
def skip : Reader Unit := do
  set (← afterGap .blank (← get))

/-- Takes a comma with the blanks around it, if there is one. -/
def comma : Reader Bool := do
  skip
  if ← accept "," then
    skip
    return true
  else return false

/-! ## Identifiers -/

/-- The characters that start an identifier. -/
def isIdentStart (c : Char) : Bool :=
  c.isAlpha || c = '_'

/-- The characters inside an identifier. -/
def isIdentChar (c : Char) : Bool :=
  isIdentStart c || c.isDigit

/-- The characters inside an identifier behind `r#`. -/
def isRawIdentChar (c : Char) : Bool :=
  isIdentChar c || c = '.' || c = '+' || c = '-'

/-- The identifier at the front and what follows it, if there is one. -/
def identifierOf? (text : List Char) : Option (String × List Char) :=
  match text with
  | 'r' :: '"' :: _ => none
  | 'r' :: '#' :: rest =>
    if (rest.takeWhile isRawIdentChar).isEmpty then none
    else some (String.ofList (rest.takeWhile isRawIdentChar), rest.dropWhile isRawIdentChar)
  | ['r'] => none
  | c :: _ =>
    if isIdentStart c
        && (text.takeWhile isRawIdentChar).length = (text.takeWhile isIdentChar).length then
      some (String.ofList (text.takeWhile isIdentChar), text.dropWhile isIdentChar)
    else none
  | [] => none

/-- Takes an identifier, if one stands at the front. -/
def identifier? : Reader (Option String) := do
  match identifierOf? (← get) with
  | some (s, rest) =>
    set rest
    return some s
  | none => return none

/-- Does the word stand at the front, with no character of an identifier behind it? -/
def standsWord (word : String) : Reader Bool := do
  let text ← get
  return word.toList.isPrefixOf text && !(text.drop word.length).head?.any isIdentChar

/-- Takes the first of the words that stands at the front. -/
def acceptWord : List String → Reader Bool
  | [] => return false
  | word :: words => do
    if ← standsWord word then accept word else acceptWord words

/-! ## Numbers -/

/-- The digits of all bases, and the mark between them. -/
def isNumeral (c : Char) : Bool :=
  c.isDigit || ('a' ≤ c && c ≤ 'f') || ('A' ≤ c && c ≤ 'F') || c = '_'

/-- The characters of decimal fractions. -/
def isFraction (c : Char) : Bool :=
  c.isDigit || c = 'e' || c = 'E' || c = '.' || c = '+' || c = '-' || c = '_'

/-- The value of a digit of base sixteen. -/
def digit? (c : Char) : Option Nat :=
  if c.isDigit then some (c.toNat - '0'.toNat)
  else if 'a' ≤ c && c ≤ 'f' then some (c.toNat - 'a'.toNat + 10)
  else if 'A' ≤ c && c ≤ 'F' then some (c.toNat - 'A'.toNat + 10)
  else none

/-- The number that digits make in a base; marks between them do not count. -/
def numeral? (base : Nat) (digits : List Char) : Option Nat :=
  (digits.filter (· != '_')).foldlM (fun n c => do
    let d ← digit? c
    if d < base then some (n * base + d) else none) 0

/-- The base that a number is written in, and the number without the mark of the base. -/
def baseOf : List Char → Nat × List Char
  | '0' :: 'x' :: rest => (16, rest)
  | '0' :: 'b' :: rest => (2, rest)
  | '0' :: 'o' :: rest => (8, rest)
  | text => (10, text)

/-- The whole number at the front and what follows it, if there is one. -/
def wholeNumber? (text : List Char) : Option (Nat × List Char) :=
  let (base, text) := baseOf text
  let digits := text.takeWhile isNumeral
  if digits.isEmpty || digits.head? == some '_' then none
  else (numeral? base digits).map fun n => (n, text.dropWhile isNumeral)

/-- Takes a whole number without a sign. -/
def whole : Reader Nat := do
  match wholeNumber? (← get) with
  | some (n, rest) =>
    set rest
    return n
  | none => throw .badNumber

/-- Drops a sign. -/
def dropSign : List Char → List Char
  | '+' :: rest => rest
  | '-' :: rest => rest
  | text => text

/-- Is this a decimal fraction: digits, with a point and an exponent or without? -/
def isDecimal (text : List Char) : Bool :=
  let text := dropSign text
  let whole := text.takeWhile Char.isDigit
  let text := text.dropWhile Char.isDigit
  let (part, text) := match text with
    | '.' :: rest => (rest.takeWhile Char.isDigit, rest.dropWhile Char.isDigit)
    | text => ([], text)
  !(whole.isEmpty && part.isEmpty) &&
    match text with
    | [] => true
    | c :: rest =>
      (c = 'e' || c = 'E') && !(dropSign rest).isEmpty && (dropSign rest).all Char.isDigit

/-- Takes a number that need not be whole. -/
def fraction : Reader Unit := do
  if !(← acceptWord ["inf", "+inf", "-inf", "NaN", "+NaN", "-NaN"]) then
    let text ← takeWhile isFraction
    if !isDecimal text then
      throw .badNumber

/-- Does a whole number fit sixty-four bits, as the sign in front of it has it? -/
def fits (sign : Option Char) (n : Nat) : Bool :=
  if sign == some '-' then 2 * n ≤ UInt64.size
  else if sign == some '+' then 2 * n < UInt64.size
  else n < UInt64.size

/-- Takes any number.  A whole one that does not fit its bits is read as a fraction. -/
def number : Reader Unit := do
  let text ← get
  let digits := dropSign text
  if (digits.takeWhile isNumeral).length < (digits.takeWhile isFraction).length then
    fraction
  else
    match wholeNumber? digits with
    | some (n, rest) => if fits text.head? n then set rest else fraction
    | none => fraction

/-! ## Text -/

/-- Takes the digits of a code point up to the closing brace, at most `limit` of them. -/
def codePoint : Nat → Nat → Reader Nat
  | 0, n => return n
  | limit + 1, n => do
    if (← peek) = '}' then return n
    else
      match digit? (← next) with
      | some d => codePoint limit (n * 16 + d)
      | none => throw .badEscape

/-- Takes a digit of base sixteen. -/
def hexDigit : Reader Nat := do
  match digit? (← next) with
  | some d => return d
  | none => throw .badEscape

/-- Takes the rest of an escape behind its backslash. -/
def escape : Reader Char := do
  match ← next with
  | '\'' => return '\''
  | '"' => return '"'
  | '\\' => return '\\'
  | 'n' => return '\n'
  | 'r' => return '\r'
  | 't' => return '\t'
  | '0' => return '\x00'
  | 'x' =>
    let high ← hexDigit
    let low ← hexDigit
    return Char.ofNat (16 * high + low)
  | 'u' =>
    expect "\x7b" .badEscape
    if (← peek) = '}' then
      throw .badEscape
    let n ← codePoint 6 0
    expect "\x7d" .badEscape
    if n.isValidChar then return Char.ofNat n else throw .badEscape
  | _ => throw .badEscape

/-- Takes the rest of a string behind its opening quote; `fuel` bounds its length. -/
def stringRest : Nat → Reader (List Char)
  | 0 => throw .badString
  | fuel + 1 => do
    match ← next with
    | '"' => return []
    | '\\' => return (← escape) :: (← stringRest fuel)
    | c => return c :: (← stringRest fuel)

/-- The text up to a closing mark, and what follows the mark. -/
def upToMark? (mark : List Char) : List Char → Option (List Char × List Char)
  | [] => none
  | c :: text =>
    if mark.isPrefixOf (c :: text) then some ([], (c :: text).drop mark.length)
    else (upToMark? mark text).map fun found => (c :: found.1, found.2)

/-- Takes a string: between quotes, or without escapes between marks of its own. -/
def string : Reader String := do
  if ← accept "\"" then
    return String.ofList (← stringRest (← bound))
  else if ← accept "r" then
    let hashes ← takeWhile (· = '#')
    expect "\"" .badString
    match upToMark? ('"' :: hashes) (← get) with
    | some (s, rest) =>
      set rest
      return String.ofList s
    | none => throw .badString
  else throw .badString

/-- Takes a character between apostrophes. -/
def char : Reader Char := do
  expect "'" .badChar
  match ← next with
  | '\\' =>
    let c ← escape
    expect "'" .badChar
    return c
  | '\'' => throw .badChar
  | c =>
    expect "'" .badChar
    return c

/-! ## Brackets -/

/-- Goes a level further down, if one is left. -/
def deeper (level : Nat) : Reader Unit :=
  if level = 0 then throw .tooDeep else pure ()

variable {α : Type}

/-- Takes items with commas between them up to a closing bracket; `ready` tells that no comma is
missing, and `fuel` bounds their number. -/
def itemsWithin (item : Reader α) (close : Char) : Nat → Bool → Reader (List α)
  | 0, _ => throw .unexpectedEnd
  | fuel + 1, ready => do
    skip
    if (← peek) = close then
      let _ ← next
      return []
    else if !ready then throw .expectedComma
    else
      let v ← item
      let more ← comma
      let rest ← itemsWithin item close fuel more
      return v :: rest

/-- Takes items with commas between them, and the closing bracket. -/
def items (item : Reader α) (close : Char) : Reader (List α) := do
  itemsWithin item close (← bound) true

/-- Takes a key with a value, which may depend on the key. -/
def entry {κ : Type} (key : Reader κ) (value : κ → Reader α) : Reader (κ × α) := do
  let k ← key
  skip
  expect ":" .expectedColon
  skip
  let v ← value k
  return (k, v)

/-- Takes the key of a field, which is a level below the record. -/
def key (level : Nat) : Reader String := do
  deeper (level - 1)
  match ← identifier? with
  | some name => return name
  | none => throw .badIdentifier

/-! ## Values -/

/-- Takes an optional value. -/
def optional (ext : Extensions) (item : Reader Value) : Reader Value := do
  if ← accept "None" then
    return .option none
  if ← accept "Some" then
    skip
    if ← accept "(" then
      skip
      let v ← item
      let _ ← comma
      expect ")" (.expectedClosing ')')
      return .option (some v)
  if ext.implicitSome then
    return .option (some (← item))
  else throw (.wrongType "option")

/-- Takes the two values of a pair with their brackets. -/
def pair (level : Nat) (first second : Reader Value) : Reader Value := do
  expect "(" (.wrongType "opening round bracket")
  deeper level
  skip
  let a ← first
  if !(← comma) then
    throw .expectedComma
  let b ← second
  let _ ← comma
  expect ")" (.expectedClosing ')')
  return .pair a b

/-- Takes the name in front of a record, if there is one. -/
def recordName (expected : String) : Reader Unit := do
  if (← peek?).any isIdentChar then
    match ← identifier? with
    | none => throw .badIdentifier
    | some found =>
      if found != expected then
        throw (.wrongName expected found)

/-- Takes a record; `item` takes the values of its fields.  A field that matters may not come twice. -/
def record (level : Nat) (name : String) (fields : List (String × Shape))
    (item : Shape → Reader Value) : Reader Value := do
  recordName name
  skip
  expect "(" (.wrongType s!"struct {name}")
  deeper level
  let given ← items (entry (key level) fun k => item ((fields.lookup k).getD .any)) ')'
  let given := given.filter fun e => (fields.lookup e.1).isSome
  match given.map (·.1) |>.find? fun k => 1 < (given.filter (·.1 == k)).length with
  | some k => throw (.duplicateField k)
  | none => return .record given

/-- Does a key with its colon stand behind the bracket at the front?  Then the bracket opens a record,
else a tuple. -/
def opensRecord : Reader Bool := do
  let text ← get
  let inside ← afterGap .blank (text.drop 1)
  match identifierOf? inside with
  | none => return false
  | some (_, rest) =>
    match ← afterGap .blank rest with
    | c :: _ => return c = ':'
    | [] => throw .unexpectedEnd

/-- Takes any tuple or record with its round brackets. -/
def bracketed (level : Nat) (item : Reader Value) : Reader Unit := do
  let fields ← opensRecord
  let _ ← next
  deeper level
  if fields then
    let _ ← items (entry (key level) fun _ => item) ')'
  else
    let _ ← items item ')'

/-- Takes anything, whatever it says; `inner` takes an optional value and `item` what stands in
brackets. -/
def anything (ext : Extensions) (level : Nat) (inner item : Reader Value) : Reader Unit := do
  if ← acceptWord ["true", "false", "None", "inf", "-inf", "NaN"] then return
  else if ← accept "()" then return
  else if ← standsWord "Some" then
    let _ ← optional ext inner
  else if (← identifier?).isSome then
    skip
    if (← peek?) = some '(' then
      bracketed level item
  else
    match ← peek with
    | '(' => bracketed level item
    | '[' =>
      let _ ← next
      deeper level
      let _ ← items item ']'
    | '{' =>
      let _ ← next
      deeper level
      let _ ← items (entry item fun _ => item) '}'
    | '"' | 'r' =>
      let _ ← string
    | '\'' =>
      let _ ← char
    | '.' => fraction
    | c => if c.isDigit || c = '+' || c = '-' then number else throw (.unexpected c)

/-- Takes a value of the shape; `inner` takes what stands one level further down and `item` what
stands two. -/
def shaped (ext : Extensions) (level : Nat) (inner item : Shape → Reader Value) :
    Shape → Reader Value
  | .any => do
    anything ext level (inner .any) (item .any)
    return .other
  | .bool => do
    if ← accept "true" then return .bool true
    else if ← accept "false" then return .bool false
    else throw (.wrongType "boolean")
  | .whole => .whole <$> whole
  | .string => .string <$> string
  | .name => .name <$> key (level + 1)
  | .list s => do
    expect "[" (.wrongType "opening square bracket")
    deeper level
    .list <$> items (item s) ']'
  | .option s => optional ext (inner s)
  | .pair a b => pair level (item a) (item b)
  | .record name fields => record level name fields item

/-- Takes a value of the shape, `level` levels deep at most.  An optional value is one level below its
place, a name of a closed set as well, and what brackets hold is two levels below them. -/
def value (ext : Extensions) : Nat → Shape → Reader Value
  | 0 => shaped ext 0 (fun _ => throw .tooDeep) (fun _ => throw .tooDeep)
  | 1 => shaped ext 1 (value ext 0) (fun _ => throw .tooDeep)
  | level + 2 => shaped ext (level + 2) (value ext (level + 1)) (value ext level)

/-- How deep a document may go. -/
def deepest : Nat := 128

/-! ## Documents -/

/-- The extensions of a name. -/
def extension (name : String) : Except Fault Extensions :=
  match name with
  | "implicit_some" => .ok { implicitSome := true }
  | "unwrap_newtypes" | "unwrap_variant_newtypes" => .ok {}
  | _ => .error (.badExtension name)

/-- Takes the names of extensions up to a closing bracket. -/
def extensionNames : Nat → Reader Extensions
  | 0 => throw .badAttribute
  | fuel + 1 => do
    match ← identifier? with
    | none => throw .badIdentifier
    | some name =>
      let this ← extension name
      let more ← comma
      if (← peek?).any isIdentChar then
        if more then
          let rest ← extensionNames fuel
          return { implicitSome := this.implicitSome || rest.implicitSome }
        else throw .expectedComma
      else return this

/-- Takes one attribute, `#![enable(..)]`. -/
def enabled (fuel : Nat) : Reader Extensions := do
  for part in ["#", "!", "[", "enable", "("] do
    expect part .badAttribute
    skip
  let found ← extensionNames fuel
  skip
  for part in [")", "]"] do
    expect part .badAttribute
    skip
  return found

/-- Takes the attributes in front of a value; `fuel` bounds their number. -/
def attributes : Nat → Reader Extensions
  | 0 => return {}
  | fuel + 1 => do
    skip
    if (← peek?) = some '#' then
      let one ← enabled fuel
      let rest ← attributes fuel
      return { implicitSome := one.implicitSome || rest.implicitSome }
    else return {}

/-- Takes a whole document. -/
def document (shape : Shape) : Reader Value := do
  let extensions ← attributes (← bound)
  let v ← value extensions deepest shape
  skip
  if (← get).isEmpty then return v else throw .trailing

end Reader

/-- Reads a document of which a shape is expected. -/
def read (shape : Shape) (text : String) : Except Fault Value :=
  Prod.fst <$> ((Reader.document shape).run (text.length + 1)).run text.toList

end SpaceOpera.Ron
