/-!
# Log records

What the parts of the program report while they work.  A record keeps its
level and its source apart from its text, so that a log can be counted and
filtered without reading it.
-/

namespace LineArithmetic.Log

inductive Level where
  | debug
  | info
  | error
  deriving DecidableEq, Repr

def Level.name : Level → String
  | .debug => "DEBUG"
  | .info => "INFO"
  | .error => "ERROR"

/-- The parts of the program that report. -/
inductive Source where
  | parser
  | compiler
  | service
  | command
  deriving DecidableEq, Repr

def Source.name : Source → String
  | .parser => "expressions.dsl.parser"
  | .compiler => "expressions.dsl.compiler"
  | .service => "expressions.views"
  | .command => "expressions.management.commands.run_document"

structure Record where
  level : Level
  source : Source
  message : String
  deriving DecidableEq, Repr

/-- A record as one line of a log. -/
def Record.text (r : Record) : String :=
  r.level.name ++ " " ++ r.source.name ++ ": " ++ r.message

end LineArithmetic.Log
