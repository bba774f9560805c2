import ProxyChain.Error
import ProxyChain.Net.Exchange

/-!
# ProxyChain.Program.Basic

**Programs** as data: a program is a tree of what it asks of its surroundings, one branch for
each answer. A program does nothing by itself. It is carried out by whatever holds the files and
the peer, so that the same program runs at a terminal and, in a proof, against any script of
answers.
-/

namespace ProxyChain

/-- A program with a result. -/
inductive Program (α : Type) : Type
  | done (result : α)
  /-- Logs a record. -/
  | record (record : Log.Record) (rest : Program α)
  /-- Prints a line. -/
  | print (line : String) (rest : Program α)
  /-- Asks whether there is a file or a directory of a name. -/
  | find (path : String) (rest : Bool → Program α)
  /-- Reads the text of a file, or learns why there is none. -/
  | readFile (path : String) (rest : Except String String → Program α)
  /-- Writes the text of a file, or learns why that cannot be done. -/
  | writeFile (path text : String) (rest : Except String Unit → Program α)
  /-- Posts a request. -/
  | post (request : Net.Request) (rest : Net.Reply → Program α)
  /-- Draws a random number from zero up to one. -/
  | draw (rest : Float → Program α)
  /-- Waits for a time in milliseconds. -/
  | pause (millis : UInt64) (rest : Program α)

namespace Program

/-- A program and then another one, chosen by the result of the first. -/
def andThen (next : α → Program β) : Program α → Program β
  | done a => next a
  | record r rest => record r (rest.andThen next)
  | print line rest => print line (rest.andThen next)
  | find path rest => find path fun found => (rest found).andThen next
  | readFile path rest => readFile path fun file => (rest file).andThen next
  | writeFile path text rest => writeFile path text fun written => (rest written).andThen next
  | post request rest => post request fun reply => (rest reply).andThen next
  | draw rest => draw fun number => (rest number).andThen next
  | pause millis rest => pause millis (rest.andThen next)

instance : Monad Program where
  pure := done
  bind p next := p.andThen next

/-- Logs records in their order. -/
def log (records : List Log.Record) : Program Unit :=
  records.foldr record (done ())

/-- Prints a line. -/
def say (line : String) : Program Unit :=
  print line (done ())

/-- Fails with an error, which is recorded where it arises. -/
def fail (error : ChainError) : Program (Except ChainError α) := do
  log error.records
  return .error error

/-- A result, or an error that is recorded now. -/
def ofExcept : Except ChainError α → Program (Except ChainError α)
  | .ok a => done (.ok a)
  | .error error => fail error

end Program

end ProxyChain
