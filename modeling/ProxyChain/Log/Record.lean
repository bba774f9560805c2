/-!
# ProxyChain.Log.Record

**Log records** are values: every operation that has something to say gives its records beside
its result, in the order in which they arise. How they are shown is decided where the program
meets the terminal.
-/

namespace ProxyChain.Log

/-- How grave a record is. -/
inductive Level
  | error
  | warn
  | info
  | debug
  deriving Repr, DecidableEq

/-- The name of a level. -/
def Level.name : Level → String
  | error => "ERROR"
  | warn => "WARN"
  | info => "INFO"
  | debug => "DEBUG"

/-- The part of the program that a record comes from. -/
inductive Origin
  | normalize
  | link
  | editor
  | balancer
  | compiler
  | profile
  | error
  | retry
  | deploy
  deriving Repr, DecidableEq

/-- The name of an origin, as records show it. -/
def Origin.target : Origin → String
  | normalize => "hopchain::normalize"
  | link => "hopchain::link"
  | editor => "hopchain::editor"
  | balancer => "hopchain::roundrobin"
  | compiler => "hopchain::compiler"
  | profile => "hopchain::config"
  | error => "hopchain::error"
  | retry => "hopchain::retry"
  | deploy => "hopchain::deploy"

/-- A log record. -/
structure Record where
  level : Level
  origin : Origin
  message : String
  deriving Repr, DecidableEq

namespace Record

/-- A record of a failure. -/
def error (origin : Origin) (message : String) : Record :=
  ⟨.error, origin, message⟩

/-- A record of something that needs attention. -/
def warn (origin : Origin) (message : String) : Record :=
  ⟨.warn, origin, message⟩

/-- A record of something done. -/
def info (origin : Origin) (message : String) : Record :=
  ⟨.info, origin, message⟩

/-- A record of a detail. -/
def debug (origin : Origin) (message : String) : Record :=
  ⟨.debug, origin, message⟩

end Record

end ProxyChain.Log
