import SpaceOpera.World.Object

/-!
# Worlds

The catalog that plots are drawn from: the settings, the cast, the goons and the items that get lost.
The first setting is home.
-/

namespace SpaceOpera

/-- What a plot may be about. -/
structure World where
  protagonists : List Object
  antagonists : List Object
  goons : List Object
  macguffins : List Object
  settings : List Object

namespace World

/-- The first setting, where plots begin and end; a world put together by hand may have none. -/
def home? (w : World) : Option Object :=
  w.settings.head?

end World

end SpaceOpera
