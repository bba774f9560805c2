import ProxyChain.Command.Grammar

/-!
# ProxyChain.Command.Invocation

**Invocations**: what a user can ask the program to do, and how it is written on a command line.
The switches that say how to log and which settings to use may stand in front of the command or
behind it; of two files of settings the one behind the command counts.
-/

namespace ProxyChain.Command

/-- What the program is asked to do. A profile is changed in its place unless there is an
output. -/
inductive Task
  /-- Write the profile to begin with. -/
  | init (path : String) (force : Bool)
  /-- Compile a profile into a config, which is printed unless there is an output. -/
  | compile (profile : String) (output : Option String) (format : Option FileFormat)
  /-- Bring a profile into normal form. -/
  | normalize (profile : String) (output : Option String)
  /-- Link a node or an inbound to a node. -/
  | link (profile source target : String) (inbound : Bool) (output : Option String)
  /-- Delete a definition and all references to it. -/
  | remove (profile tag : String) (output : Option String)
  /-- List the balancers of a config. -/
  | groups (config : String)
  /-- Compile a profile and send the config to the runtime manager, again and again if it is to
  be watched. -/
  | deploy (profile : String) (url : Option String) (force : Bool) (watch : Option Nat)
  deriving Repr, DecidableEq

/-- An invocation of the program. -/
structure Invocation where
  verbose : Bool
  jsonLog : Bool
  settings : Option String
  task : Task
  deriving Repr, DecidableEq

/-! ### Grammars -/

/-- The switches that may stand anywhere. -/
def sharedSwitches : List Switch :=
  [⟨"verbose", some 'v', .flag⟩, ⟨"json-log", none, .flag⟩,
    ⟨"settings", some 's', .value .path⟩, ⟨"help", some 'h', .stop .help⟩]

/-- The switch for the file that is written. -/
def outputSwitch : Switch :=
  ⟨"output", some 'o', .value .path⟩

/-- The grammar of a task, its name, and how it is read off what was found. -/
structure TaskForm where
  name : String
  words : List WordKind
  switches : List Switch
  build : Findings → Option Task

/-- Whether a flag was found. -/
def Findings.has (f : Findings) (name : String) : Bool :=
  f.flags.contains name

/-- The value that was found for a switch. -/
def Findings.value? (f : Findings) (name : String) : Option String :=
  f.values.lookup name

/-- All tasks. -/
def taskForms : List TaskForm :=
  [{ name := "init", words := [.path]
     switches := [⟨"force", none, .flag⟩]
     build := fun f => match f.words with
       | [path] => some (.init path (f.has "force"))
       | _ => none },
   { name := "compile", words := [.path]
     switches := [outputSwitch, ⟨"format", some 'f', .value .format⟩]
     build := fun f => match f.words with
       | [profile] =>
         let format := (f.value? "format").bind fun name => (FileFormat.ofName name).toOption
         some (.compile profile (f.value? "output") format)
       | _ => none },
   { name := "normalize", words := [.path]
     switches := [outputSwitch]
     build := fun f => match f.words with
       | [profile] => some (.normalize profile (f.value? "output"))
       | _ => none },
   { name := "link", words := [.path, .text, .text]
     switches := [⟨"inbound", none, .flag⟩, outputSwitch]
     build := fun f => match f.words with
       | [profile, source, target] =>
         some (.link profile source target (f.has "inbound") (f.value? "output"))
       | _ => none },
   { name := "remove", words := [.path, .text]
     switches := [outputSwitch]
     build := fun f => match f.words with
       | [profile, tag] => some (.remove profile tag (f.value? "output"))
       | _ => none },
   { name := "groups", words := [.path]
     switches := []
     build := fun f => match f.words with
       | [config] => some (.groups config)
       | _ => none },
   { name := "deploy", words := [.path]
     switches := [⟨"url", some 'u', .value .text⟩, ⟨"force", none, .flag⟩,
       ⟨"watch", some 'w', .value .count⟩]
     build := fun f => match f.words with
       | [profile] =>
         let watch := (f.value? "watch").bind Text.readNatural?
         some (.deploy profile (f.value? "url") (f.has "force") watch)
       | _ => none }]

/-- The names of the commands; one of them asks for help. -/
def commandNames : List String :=
  taskForms.map TaskForm.name ++ ["help"]

/-- The grammar of a whole line. -/
def lineGrammar : Grammar where
  switches := sharedSwitches ++ [⟨"version", some 'V', .stop .version⟩]
  words := []
  commands := commandNames

/-- The grammar of what stands behind the name of a task. -/
def TaskForm.grammar (form : TaskForm) : Grammar where
  switches := form.switches ++ sharedSwitches
  words := form.words
  commands := []

/-! ### Reading -/

/-- Reads a request for help on a command. -/
def readHelp (line : List String) : Stop :=
  match line with
  | [] => .help
  | [name] => if commandNames.contains name then .help else .misuse
  | _ => .misuse

/-- Reads what stands behind the name of a task. -/
def readTask (form : TaskForm) (line : List String) : Except Stop (Findings × Task) := do
  let (found, _) ← form.grammar.read line
  match form.build found with
  | some task => return (found, task)
  | none => .error .misuse

/-- Reads a command line. -/
def Invocation.read (line : List String) : Except Stop Invocation := do
  match ← lineGrammar.read line with
  | (_, none) => .error .misuse
  | (front, some (name, rest)) =>
    match taskForms.find? fun form => form.name = name with
    | none => .error (readHelp rest)
    | some form =>
      let (back, task) ← readTask form rest
      return {
        verbose := front.has "verbose" || back.has "verbose"
        jsonLog := front.has "json-log" || back.has "json-log"
        settings := (back.value? "settings").or (front.value? "settings")
        task := task }

end ProxyChain.Command
