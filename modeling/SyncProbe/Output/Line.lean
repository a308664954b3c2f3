import SyncProbe.Json.Writer

/-!
# Lines of the log

A line tells a person one thing, behind a coloured tag that says how serious it is.
-/

namespace SyncProbe

/-- How serious a line is. -/
inductive Level where
  | info
  | error
deriving DecidableEq, Repr

namespace Level

def name : Level → String
  | info => "info"
  | error => "error"

/-- The number of the terminal's colour for the level. -/
def colour : Level → Nat
  | info => 32
  | error => 31

/-- The level's tag, in its colour. The colour after it is the terminal's own. -/
def tag (level : Level) : String :=
  s!"\x1b[{level.colour}m[{level.name.toUpper}]\x1b[39m"

end Level

/-- A line of the log. -/
structure Line where
  level : Level
  message : String
deriving DecidableEq, Repr

namespace Line

def text (line : Line) : String :=
  line.level.tag ++ " " ++ line.message

def toJson (line : Line) : Json :=
  .object [("level", .string line.level.name), ("message", .string line.message)]

end Line

end SyncProbe
