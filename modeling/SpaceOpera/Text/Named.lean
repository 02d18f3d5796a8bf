/-!
# Closed sets of names

A type whose values are listed and have a name each, so that a name can be read back.
-/

namespace SpaceOpera

/-- A type of finitely many values with names. -/
class Named (α : Type) where
  /-- Every value, in the order of the type. -/
  all : List α
  /-- The name of a value. -/
  name : α → String

/-- The value of a name. -/
def ofName? {α : Type} [Named α] (name : String) : Option α :=
  Named.all.find? fun a => Named.name a == name

/-- What a name reads back as has that name. -/
theorem name_of_ofName? {α : Type} [Named α] {name : String} {a : α} (h : ofName? name = some a) :
    Named.name a = name := by
  simpa using List.find?_some h

end SpaceOpera
