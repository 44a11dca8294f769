/-!
# Notes

While it works, the library tells of its progress in notes. A note has a level and names the part of the
library it comes from (`Landscape.Note`); whoever listens sees the notes from some level on, a line
each (`Landscape.Note.line`).
-/

namespace Landscape

/-- How much a note matters. -/
inductive Level where
  | debug | info | warning | error
  deriving DecidableEq, Repr, Inhabited

/-- The name of a level. -/
def Level.name : Level → String
  | .debug => "DEBUG"
  | .info => "INFO"
  | .warning => "WARNING"
  | .error => "ERROR"

/-- The rank of a level, higher for what matters more. -/
def Level.rank : Level → Nat
  | .debug => 0
  | .info => 1
  | .warning => 2
  | .error => 3

/-- The parts of the library that tell something. -/
inductive Origin where
  | commandLine | document | settings | simple | uml | renderer | service
  deriving DecidableEq, Repr

/-- The name of a part in notes. -/
def Origin.name : Origin → String
  | .commandLine => "msviz.__main__"
  | .document => "msviz.core.model.loader"
  | .settings => "msviz.core.settings"
  | .simple => "msviz.core.diagrams.simple"
  | .uml => "msviz.core.diagrams.uml"
  | .renderer => "msviz.core.diagrams.renderer"
  | .service => "msviz.core.diagrams.service"

/-- Something that was told. -/
structure Note where
  level : Level
  origin : Origin
  text : String
  deriving DecidableEq, Repr

/-- Whether a note matters enough for a listener. -/
def Note.reaches (n : Note) (listener : Level) : Bool :=
  listener.rank ≤ n.level.rank

/-- The line of a note that was told at a time. -/
def Note.line (time : String) (n : Note) : String :=
  time ++ " - " ++ n.origin.name ++ " - " ++ n.level.name ++ " - " ++ n.text

end Landscape
