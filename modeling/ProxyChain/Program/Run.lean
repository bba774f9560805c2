import ProxyChain.Program.Basic
import ProxyChain.Program.Directory

/-!
# ProxyChain.Program.Run

**Running a program** in surroundings that are given in full: a directory, a script of replies
and a script of random numbers. The transcript holds all that the program did, in order.
-/

namespace ProxyChain

/-- All that a program can ask for. -/
structure Surroundings where
  directory : Directory
  /-- The reply to each request, by how many requests came before it. -/
  replies : Nat → Net.Reply
  /-- The random numbers, in the order in which they are drawn. -/
  numbers : Nat → Float

/-- What a program did, and the surroundings that it left. -/
structure Transcript (α : Type) where
  result : α
  after : Surroundings
  lines : List String := []
  records : List Log.Record := []
  requests : List Net.Request := []

namespace Program

/-- Runs a program. -/
def run (s : Surroundings) : Program α → Transcript α
  | done a => { result := a, after := s }
  | record r rest =>
    let t := rest.run s
    { t with records := r :: t.records }
  | print line rest =>
    let t := rest.run s
    { t with lines := line :: t.lines }
  | find path rest => (rest (s.directory.contains path)).run s
  | readFile path rest => (rest ((s.directory.read path).mapError FileFault.message)).run s
  | writeFile path text rest =>
    match s.directory.write path text with
    | .ok directory => (rest (.ok ())).run { s with directory := directory }
    | .error fault => (rest (.error fault.message)).run s
  | post request rest =>
    let t := (rest (s.replies 0)).run { s with replies := fun n => s.replies (n + 1) }
    { t with requests := request :: t.requests }
  | draw rest => (rest (s.numbers 0)).run { s with numbers := fun n => s.numbers (n + 1) }
  | pause _ rest => rest.run s

end Program

/-- Two transcripts, one behind the other. -/
def Transcript.append (t : Transcript α) (u : Transcript β) : Transcript β :=
  { u with
    lines := t.lines ++ u.lines
    records := t.records ++ u.records
    requests := t.requests ++ u.requests }

/-- A program that goes on by its result runs in two parts, the second in the surroundings that
the first one left. -/
theorem Program.run_bind (p : Program α) (next : α → Program β) (s : Surroundings) :
    (p >>= next).run s
      = (p.run s).append ((next (p.run s).result).run (p.run s).after) := by
  change (p.andThen next).run s = _
  induction p generalizing s with
  | done a => rfl
  | record r rest ih => simp [andThen, run, ih, Transcript.append]
  | print line rest ih => simp [andThen, run, ih, Transcript.append]
  | find path rest ih => simp [andThen, run, ih]
  | readFile path rest ih => simp [andThen, run, ih]
  | writeFile path text rest ih =>
    simp only [andThen, run]
    split <;> simp [ih]
  | post request rest ih => simp [andThen, run, ih, Transcript.append]
  | draw rest ih => simp [andThen, run, ih]
  | pause millis rest ih => simp [andThen, run, ih]

end ProxyChain
