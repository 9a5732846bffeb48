import ConceptQuery.Failure
import ConceptQuery.Text.LetterCase

/-!
# Log levels

* `LogLevel` — the levels of the root logger;
* `LogLevel.ofName?` — the level of an upper-case name, synonyms included;
* `LogLevel.choose` — the level of a requested name or, without one, of the configured name.
-/

namespace ConceptQuery

/-- How severe a message must be to be logged. -/
inductive LogLevel where
  | critical
  | error
  | warning
  | info
  | debug
  | notSet
deriving Repr, DecidableEq

/-- The name of a level. -/
def LogLevel.name : LogLevel → String
  | .critical => "CRITICAL"
  | .error => "ERROR"
  | .warning => "WARNING"
  | .info => "INFO"
  | .debug => "DEBUG"
  | .notSet => "NOTSET"

/-- The names under which levels are known. -/
def LogLevel.known : List (String × LogLevel) := [
  ("CRITICAL", .critical), ("FATAL", .critical), ("ERROR", .error), ("WARN", .warning),
  ("WARNING", .warning), ("INFO", .info), ("DEBUG", .debug), ("NOTSET", .notSet)]

/-- The level of an upper-case name. -/
def LogLevel.ofName? (name : String) : Option LogLevel :=
  LogLevel.known.lookup name

/-- The level of a requested name in any letter case; no name or an empty one asks for the
configured one. -/
def LogLevel.choose (requested : Option String) (configured : String) :
    Except Failure LogLevel :=
  let asked := requested.getD ""
  let name := Text.toUpper (if asked.isEmpty then configured else asked)
  match LogLevel.ofName? name with
  | some level => .ok level
  | none => .error (.invalidValue ("Unknown level: " ++ Text.quoted name))

end ConceptQuery
