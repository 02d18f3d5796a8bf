import SpaceOpera.Ron.Reader
import SpaceOpera.Text.Named

/-!
# What a document means

A decoder says what it expects of a document and turns what stands there into what it describes.
Records may leave fields out that have a default and hold fields that nobody asks for.
-/

namespace SpaceOpera.Ron

/-- What is expected of a place, and what a value there describes. -/
structure Decoder (α : Type) where
  shape : Shape
  decode : Value → Except Fault α

/-- Fields of a record that are expected, and what they describe together. -/
structure Fields (α : Type) where
  shapes : List (String × Shape)
  decode : List (String × Value) → Except Fault α

namespace Fields

instance : Functor Fields where
  map f d := ⟨d.shapes, fun given => f <$> d.decode given⟩

instance : Applicative Fields where
  pure a := ⟨[], fun _ => .ok a⟩
  seq f d := ⟨f.shapes ++ (d ()).shapes, fun given => f.decode given <*> (d ()).decode given⟩

variable {α : Type}

/-- A field that has to be given. -/
def required (key : String) (item : Decoder α) : Fields α where
  shapes := [(key, item.shape)]
  decode given :=
    match given.lookup key with
    | some v => item.decode v
    | none => .error (.missingField key)

/-- A field that has a default. -/
def optional (key : String) (default : α) (item : Decoder α) : Fields α where
  shapes := [(key, item.shape)]
  decode given :=
    match given.lookup key with
    | some v => item.decode v
    | none => .ok default

end Fields

namespace Decoder

variable {α β : Type}

/-- A truth value. -/
def bool : Decoder Bool where
  shape := .bool
  decode
    | .bool b => .ok b
    | _ => .error (.wrongType "boolean")

/-- A whole number of at most thirty-two bits. -/
def count : Decoder Nat where
  shape := .whole
  decode
    | .whole n => if n < UInt32.size then .ok n else .error (.outOfRange n)
    | _ => .error (.wrongType "integer")

/-- A text. -/
def string : Decoder String where
  shape := .string
  decode
    | .string s => .ok s
    | _ => .error (.wrongType "string")

/-- One of a closed set of names. -/
def named [Named α] : Decoder α where
  shape := .name
  decode
    | .name s =>
      match ofName? s with
      | some a => .ok a
      | none => .error (.unknownName s)
    | _ => .error (.wrongType "identifier")

/-- A list. -/
def list (item : Decoder α) : Decoder (List α) where
  shape := .list item.shape
  decode
    | .list vs => vs.mapM item.decode
    | _ => .error (.wrongType "opening square bracket")

/-- A value that may be absent; a value that is there need not be marked as such. -/
def option (item : Decoder α) : Decoder (Option α) where
  shape := .option item.shape
  decode
    | .option none => .ok none
    | .option (some v) | v => some <$> item.decode v

/-- Two values in round brackets. -/
def pair (first : Decoder α) (second : Decoder β) : Decoder (α × β) where
  shape := .pair first.shape second.shape
  decode
    | .pair a b => return (← first.decode a, ← second.decode b)
    | _ => .error (.wrongType "two values in round brackets")

/-- A record. -/
def record (name : String) (fields : Fields α) : Decoder α where
  shape := .record name fields.shapes
  decode
    | .record given => fields.decode given
    | _ => .error (.wrongType s!"struct {name}")

/-- Reads what a document describes. -/
def read (d : Decoder α) (text : String) : Except Fault α := do
  d.decode (← Ron.read d.shape text)

end Decoder

end SpaceOpera.Ron
