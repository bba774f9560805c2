import ProxyChain.Topology.Link
import ProxyChain.Error

/-!
# ProxyChain.Command.Failure

**Failures of the program**, and how they are told: what was being done comes first, then the
error. What a reader of texts or files reported is told once more at the end, as the cause.
-/

namespace ProxyChain.Command

/-- Why the program gives up. -/
inductive Failure
  /-- An error, and what was being done. -/
  | error (doing : Option String) (error : ChainError)
  /-- A config cannot be read. -/
  | unreadable (path detail : String)
  /-- There is a file already. -/
  | present (path : String)
  /-- A link is not allowed. -/
  | denied (denial : Denial)
  deriving Repr, DecidableEq

/-- An error with its cause behind it. -/
def traced (error : ChainError) : String :=
  match error with
  | .http detail | .json detail | .yaml detail | .io detail | .url detail =>
    s!"{error.message}: {detail}"
  | _ => error.message

/-- The wording of a failure. -/
def Failure.message : Failure → String
  | error none e => traced e
  | error (some doing) e => s!"{doing}: {traced e}"
  | unreadable path detail => s!"reading config {path}: {detail}"
  | present path => s!"{path} already exists (use --force to overwrite)"
  | denied denial => denial.message

end ProxyChain.Command
