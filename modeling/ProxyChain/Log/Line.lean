import ProxyChain.Json.Printer
import ProxyChain.Log.Record

/-!
# ProxyChain.Log.Line

**Log lines**: how records are shown at a terminal, either for people, with the level in colour,
or for programs, as one JSON object to a line.
-/

namespace ProxyChain.Log

/-- What a clock shows: the time of the day, and the moment in full. -/
structure Clock where
  time : String
  moment : String

/-- How records are shown. -/
structure Style where
  /-- Whether details are shown, and where records come from. -/
  verbose : Bool := false
  json : Bool := false
  deriving Repr, DecidableEq

/-- The number of the colour in which a level is shown. -/
def Level.colour : Level → Nat
  | error => 31
  | warn => 33
  | info => 32
  | debug => 36

/-- The name of a level with blanks behind it, so that all levels are equally wide. -/
def Level.column (level : Level) : String :=
  level.name ++ String.ofList (List.replicate (5 - level.name.length) ' ')

namespace Record

/-- Whether a record is shown. -/
def isShown (style : Style) (r : Record) : Bool :=
  style.verbose || r.level != .debug

/-- A record for people, without the time. -/
def compact (style : Style) (r : Record) : String :=
  let origin := if style.verbose then s!"[{r.origin.target}] " else ""
  s!"\x1b[{r.level.colour}m{r.level.column}\x1b[0m {origin}{r.message}"

/-- The fields of a record for programs, without the time. -/
def fields (r : Record) : List (String × Json.Value) :=
  [("level", .string r.level.name), ("message", .string r.message),
    ("target", .string r.origin.target)]

/-- The line of a record. -/
def line (style : Style) (clock : Clock) (r : Record) : String :=
  if style.json then
    (Json.Value.object (r.fields ++ [("timestamp", .string clock.moment)])).compact
  else s!"[{clock.time}] {r.compact style}"

end Record

end ProxyChain.Log
