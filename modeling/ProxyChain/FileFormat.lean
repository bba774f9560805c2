import ProxyChain.Json.Printer
import ProxyChain.Json.Reader
import ProxyChain.Yaml.Printer
import ProxyChain.Yaml.Reader

/-!
# ProxyChain.FileFormat

**The formats of files**: a profile or a config is kept as JSON or as YAML. The name of a file
tells which, unless the user does.
-/

namespace ProxyChain

/-- The format of a file. -/
inductive FileFormat
  | json
  | yaml
  deriving Repr, DecidableEq, Inhabited

namespace FileFormat

/-- The name of a format. -/
def name : FileFormat → String
  | json => "json"
  | yaml => "yaml"

/-- The format that a name, in either case, stands for. -/
def ofName (name : String) : Except String FileFormat :=
  match name.toLower with
  | "json" => .ok json
  | "yaml" | "yml" => .ok yaml
  | other => .error s!"Unknown format: {other} (expected json or yaml)"

/-! ### Names of files -/

/-- The steps of a path, without those that lead nowhere. -/
def steps (path : String) : List (List Char) :=
  (path.toList.splitOn '/').filter fun step => step ≠ [] ∧ step ≠ ['.']

/-- What is behind the last point of a file's name. A point at its beginning does not count. -/
def extension? (path : String) : Option String :=
  match (steps path).getLast? with
  | none | some ['.', '.'] => none
  | some file =>
    let ending := (file.reverse.takeWhile (· ≠ '.')).reverse
    let stem := (file.reverse.dropWhile (· ≠ '.')).tail
    if stem.isEmpty then none else some (String.ofList ending)

/-- The format of a file by the ending of its name; JSON unless the ending says otherwise. -/
def ofPath (path : String) : FileFormat :=
  match (extension? path).map String.toLower with
  | some "yaml" | some "yml" => yaml
  | _ => json

/-! ### Reading and writing -/

/-- The text of a value. -/
def render : FileFormat → Json.Value → String
  | json, value => value.indented
  | yaml, value => Yaml.render value

/-- Reads a text. -/
def decode (format : FileFormat) (ofDocument : Document → Except Fault α) (text : String) :
    Except Fault α :=
  match format with
  | json => Json.decode ofDocument text
  | yaml => Yaml.decode ofDocument text

end FileFormat

end ProxyChain
