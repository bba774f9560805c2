import ProxyChain.FileFormat
import ProxyChain.Text.Digits

/-!
# ProxyChain.Command.Grammar

**The grammar of a command line**: switches with long names and letters, words in their order, and
names of commands that hand the rest of the line over to a grammar of their own.

A switch is given once at most. Its value is the next word, which may not look like a switch, or
what is written behind its name. Behind two dashes everything is a word.
-/

namespace ProxyChain.Command

/-- What a word or the value of a switch has to be. -/
inductive WordKind
  /-- The name of a file, which is not empty. -/
  | path
  | text
  /-- The name of a file format. -/
  | format
  /-- A natural number of 64 bits. -/
  | count
  deriving Repr, DecidableEq

/-- Whether a word is of a kind. -/
def WordKind.accepts : WordKind → String → Bool
  | path, word => word ≠ ""
  | text, _ => true
  | format, word => (FileFormat.ofName word).toOption.isSome
  | count, word => (Text.readNatural? word).any (· < UInt64.size)

/-- Why a command line is not carried out. -/
inductive Stop
  /-- The line cannot be understood. -/
  | misuse
  /-- The line asks for help. -/
  | help
  /-- The line asks for the version. -/
  | version
  deriving Repr, DecidableEq

/-- What a switch does. -/
inductive SwitchKind
  | flag
  | value (kind : WordKind)
  /-- Ends the reading of the line. -/
  | stop (stop : Stop)
  deriving Repr, DecidableEq

/-- A switch. -/
structure Switch where
  name : String
  letter : Option Char
  kind : SwitchKind
  deriving Repr, DecidableEq

/-- The grammar of a command line. -/
structure Grammar where
  switches : List Switch
  words : List WordKind
  commands : List String

/-- What was found on a command line. -/
structure Findings where
  flags : List String := []
  values : List (String × String) := []
  words : List String := []
  deriving Repr, DecidableEq

/-- How far a command line was read. -/
structure Reading where
  found : Findings := {}
  /-- The switch that still needs its value. -/
  pending : Option Switch := none
  /-- Whether all that follows is words. -/
  wordsOnly : Bool := false

/-- What comes of one word. -/
inductive Progress
  | more (reading : Reading)
  /-- The rest of the line belongs to a command. -/
  | command (name : String)

namespace Grammar

/-- Notes a flag. -/
def noteFlag (r : Reading) (name : String) : Except Stop Reading :=
  if r.found.flags.contains name then .error .misuse
  else .ok { r with found := { r.found with flags := r.found.flags ++ [name] } }

/-- Notes the value of a switch. -/
def noteValue (r : Reading) (name : String) (kind : WordKind) (value : String) :
    Except Stop Reading :=
  if (r.found.values.lookup name).isSome || !kind.accepts value then .error .misuse
  else .ok { r with
    pending := none
    found := { r.found with values := r.found.values ++ [(name, value)] } }

/-- Notes a word. -/
def noteWord (g : Grammar) (r : Reading) (word : String) : Except Stop Reading :=
  match g.words[r.found.words.length]? with
  | some kind =>
    if kind.accepts word then
      .ok { r with found := { r.found with words := r.found.words ++ [word] } }
    else .error .misuse
  | none => .error .misuse

/-- Reads a switch, given the value that is written behind its name. -/
def readSwitch (r : Reading) (switch : Switch) (attached : Option String) : Except Stop Reading :=
  match switch.kind, attached with
  | .stop stop, none => .error stop
  | .flag, none => noteFlag r switch.name
  | .value _, none => .ok { r with pending := some switch }
  | .value kind, some value => noteValue r switch.name kind value
  | .stop _, some _ | .flag, some _ => .error .misuse

/-- Reads a switch by its name, with or without a value behind an equals sign. -/
def readNamed (g : Grammar) (r : Reading) (cs : List Char) : Except Stop Reading :=
  let name := String.ofList (cs.takeWhile (· ≠ '='))
  let attached := match cs.dropWhile (· ≠ '=') with
    | _ :: value => some (String.ofList value)
    | [] => none
  match g.switches.find? fun switch => switch.name = name with
  | some switch => readSwitch r switch attached
  | none => .error .misuse

/-- Reads letters of switches. Behind the letter of a switch with a value the value may follow. -/
def readLetters (g : Grammar) (r : Reading) : List Char → Except Stop Reading
  | [] => .ok r
  | letter :: rest =>
    match g.switches.find? fun switch => switch.letter = some letter with
    | none => .error .misuse
    | some switch =>
      match switch.kind, rest with
      | .value _, '=' :: value | .value _, value@(_ :: _) =>
        readSwitch r switch (some (String.ofList value))
      | _, rest => do readLetters g (← readSwitch r switch none) rest

/-- Whether a word looks like a switch. -/
def looksLikeSwitch (word : String) : Bool :=
  word.startsWith "-" && word ≠ "-"

/-- Reads one word. -/
def step (g : Grammar) (r : Reading) (word : String) : Except Stop Progress :=
  match r.pending with
  | some ⟨name, _, .value kind⟩ =>
    if looksLikeSwitch word then .error .misuse
    else Progress.more <$> noteValue r name kind word
  | _ =>
    if r.wordsOnly then Progress.more <$> g.noteWord r word
    else if g.commands.contains word then .ok (.command word)
    else if word = "--" then .ok (.more { r with wordsOnly := true })
    else match word.toList with
      | '-' :: '-' :: name => Progress.more <$> g.readNamed r name
      | '-' :: letter :: letters => Progress.more <$> g.readLetters r (letter :: letters)
      | _ => Progress.more <$> g.noteWord r word

/-- Reads a line up to its end or to a command, whose name and line are given. -/
def readFrom (g : Grammar) (r : Reading) :
    List String → Except Stop (Findings × Option (String × List String))
  | [] => if r.pending.isSome then .error .misuse else .ok (r.found, none)
  | word :: rest =>
    match g.step r word with
    | .error stop => .error stop
    | .ok (.more r) => g.readFrom r rest
    | .ok (.command name) => .ok (r.found, some (name, rest))

/-- Reads a line. -/
def read (g : Grammar) (line : List String) :
    Except Stop (Findings × Option (String × List String)) :=
  g.readFrom {} line

end Grammar

end ProxyChain.Command
