import ProxyChain.Command.Failure
import ProxyChain.Command.Invocation
import ProxyChain.Command.Table
import ProxyChain.Config.Balancers
import ProxyChain.Deploy.Client
import ProxyChain.Log.Line
import ProxyChain.Settings.Active
import ProxyChain.Topology.Edit
import ProxyChain.Topology.Profile

/-!
# ProxyChain.Command.Perform

**Carrying out an invocation.** Each task is a program that reads its files, does its work and
says what it did. The first error ends it. Watching a profile has no end of its own, so it is
given as what is to be done at every turn.
-/

namespace ProxyChain.Command

/-! ### Steps of tasks -/

/-- A program that may fail. -/
abbrev Attempt (α : Type) : Type :=
  ExceptT Failure Program α

/-- A result, or an error that arose while something was being done. -/
def orFail (doing : Option String) : Except ChainError α → Except Failure α
  | .ok a => .ok a
  | .error error => .error (.error doing error)

/-- Logs records. -/
def log (records : List Log.Record) : Attempt Unit :=
  ExceptT.lift (Program.log records)

/-- Prints a line. -/
def say (line : String) : Attempt Unit :=
  ExceptT.lift (Program.say line)

/-- Says that something was done. -/
def sayDone (text : String) : Attempt Unit :=
  say ("✅ " ++ text)

/-- Tells something. -/
def tell (text : String) : Attempt Unit :=
  say ("📋 " ++ text)

/-- The text of a file, or why there is none. -/
def readFile (path : String) : Attempt (Except String String) :=
  ExceptT.lift (.readFile path .done)

/-- Whether there is a file. -/
def fileExists (path : String) : Attempt Bool :=
  ExceptT.lift (.find path .done)

/-- Writes a file. -/
def writeFile (doing : Option String) (path text : String) : Attempt Unit :=
  ExceptT.mk (.writeFile path text fun written =>
    .done (orFail doing (written.mapError .io)))

/-- Reads a profile. -/
def loadProfile (path : String) : Attempt Topology := do
  let file ← readFile path
  log (Topology.profileRecords path file)
  ExceptT.mk (.done (orFail (some s!"loading profile {path}") (Topology.ofProfile path file)))

/-- Writes a profile to the output, or in its place. -/
def storeProfile (t : Topology) (profile : String) (output : Option String) : Attempt Unit := do
  let target := output.getD profile
  writeFile (some s!"writing profile {target}") target (t.toProfile target)
  sayDone s!"档案已保存到: {target}"

/-! ### Tasks -/

/-- Writes the profile to begin with. -/
def init (path : String) (force : Bool) : Attempt Unit := do
  if (← fileExists path) && !force then throw (.present path)
  writeFile none path (Topology.defaultProfile.toProfile path)
  sayDone s!"已写入初始档案: {path}"

/-- Compiles a topology. -/
def compileTopology (settings : CompilerSettings) (t : Topology) : Attempt RuntimeConfig := do
  log (compileRecords settings t)
  ExceptT.mk (.done (orFail none ((compile settings t).mapError .compile)))

/-- Compiles a profile. -/
def compileProfile (settings : CompilerSettings) (profile : String) (output : Option String)
    (format : Option FileFormat) : Attempt Unit := do
  let config ← compileTopology settings (← loadProfile profile)
  match output with
  | some path =>
    let format := format.getD (FileFormat.ofPath path)
    writeFile none path (format.render config.toValue)
    sayDone s!"配置已导出到: {path} ({format.name})"
  | none => say ((format.getD .json).render config.toValue)

/-- The lines that tell what was repaired. -/
def repairLines (report : NormalizeReport) : List String :=
  [s!"  节点库修复: {report.libraryRepaired}", s!"  删除放置: {report.placementsPruned}",
    s!"  改写入站: {report.inboundsChanged}", s!"  改写节点: {report.nodesChanged}",
    s!"  清空池成员: {report.managedCleared}"]

/-- Brings a profile into normal form. One that is in normal form is written only to an output. -/
def normalizeProfile (profile : String) (output : Option String) : Attempt Unit := do
  let t ← loadProfile profile
  let report := t.repairs
  log report.records
  if report.changed then
    tell "修复结果:"
    (repairLines report).forM say
    storeProfile t.normalize profile output
  else
    tell "档案无需修复"
    if output.isSome then storeProfile t.normalize profile output

/-- Links a node or an inbound to a node. -/
def linkProfile (profile : String) (source : LinkSource) (target : String)
    (output : Option String) : Attempt Unit := do
  let t ← loadProfile profile
  log t.repairs.records
  let linked := t.normalize.link source target
  log linked.records
  match linked.decision with
  | .deny denial => throw (.denied denial)
  | .allow _ =>
    sayDone s!"已连接 {source.tag} -> {target}"
    storeProfile linked.topology profile output

/-- Deletes a definition and all references to it. -/
def removeFromProfile (profile tag : String) (output : Option String) : Attempt Unit := do
  let edited := (← loadProfile profile).deleteDefinition tag
  log edited.records
  match edited.outcome with
  | .error refusal => throw (.error none refusal.error)
  | .ok report =>
    sayDone (s!"已删除 {tag}：移除 {report.placementsRemoved} 个放置节点，"
      ++ s!"{report.linksRemoved} 条连线")
    storeProfile edited.topology profile output

/-- The cells of a balancer in the list of balancers. -/
def balancerCells (group : BalancerGroup) : List String :=
  [group.id, toString group.listenPort.toNat,
    ",".intercalate (group.backendPorts.map fun port => toString port.toNat)]

/-- Lists the balancers of a config. -/
def listGroups (path : String) : Attempt Unit := do
  match ← readFile path with
  | .error detail => throw (.unreadable path detail)
  | .ok text =>
    let read := (Json.decode RuntimeConfig.ofDocument text).mapError fun fault =>
      ChainError.json fault.message
    let config ← ExceptT.mk (.done (orFail none read))
    let groups := config.balancerGroups
    if groups.isEmpty then tell "没有轮询组"
    else (tableLines ["ID", "LISTEN", "BACKENDS"] (groups.map balancerCells)).forM say

/-! ### Sending -/

/-- What is needed to send the configs of a profile. -/
structure Watch where
  client : DeployClient
  settings : CompilerSettings
  profile : String
  /-- The time between two looks at the profile, in seconds. -/
  interval : Nat

/-- The time to wait before the next look at the profile, in milliseconds. -/
def Watch.pauseMillis (w : Watch) : Nat :=
  1000 * max w.interval 1

/-- Compiles a profile and sends the config if it is another one; the client goes along. -/
def Watch.send (w : Watch) (force : Bool) : Program (Watch × Except Failure Bool) := do
  match ← (loadProfile w.profile).run with
  | .error failure => return (w, .error failure)
  | .ok t =>
    let (client, sent) ← w.client.compileAndDeploy w.settings t force
    return ({ w with client := client }, orFail none sent)

/-- Another look at the profile. -/
def Watch.look (w : Watch) : Program (Watch × Except Failure Unit) := do
  let (w, sent) ← w.send false
  match sent with
  | .error failure => return (w, .error failure)
  | .ok sent =>
    if sent then Program.say "✅ 检测到变化，已重新部署"
    return (w, .ok ())

/-- The settings in use, with another address of the manager if one is given. -/
def deploySettings (active : ActiveSettings) (url : Option String) : Attempt Settings := do
  match url with
  | none => return active.settings
  | some url =>
    let settings := active.settings
    let changed :=
      { active with settings := { settings with deploy := { settings.deploy with baseUrl := url } } }
    let checked ← ExceptT.lift (Program.ofExcept changed.check)
    ExceptT.mk (.done (orFail none checked))
    return changed.settings

/-- Compiles a profile and sends the config. If the profile is to be watched, the result says how
to go on. -/
def deployProfile (active : ActiveSettings) (profile : String) (url : Option String)
    (force : Bool) (watch : Option Nat) : Attempt (Option Watch) := do
  let settings ← deploySettings active url
  let created ← ExceptT.lift (Program.ofExcept (DeployClient.ofSettings settings.deploy))
  let client ← ExceptT.mk (.done (orFail none created))
  let start : Watch := ⟨client, settings.compiler, profile, watch.getD 0⟩
  let (w, sent) ← ExceptT.lift (start.send force)
  discard (ExceptT.mk (.done sent))
  sayDone s!"配置已部署到: {client.baseUrl.render}"
  match watch with
  | none => return none
  | some interval =>
    tell s!"监听档案变化 (间隔: {interval}s)，按 Ctrl+C 退出"
    return some w

/-! ### Invocations -/

/-- The settings to use. -/
def loadSettings (path : Option String) : Attempt ActiveSettings := do
  match path with
  | none => return {}
  | some path =>
    let file ← readFile path
    let loaded ← ExceptT.lift (Program.ofExcept (({} : ActiveSettings).loadFile path file))
    ExceptT.mk (.done (orFail (some s!"loading settings from {path}") loaded))

/-- Carries out an invocation. -/
def Invocation.attempt (i : Invocation) : Attempt (Option Watch) := do
  let active ← loadSettings i.settings
  match i.task with
  | .init path force => init path force
  | .compile profile output format =>
    compileProfile active.settings.compiler profile output format
  | .normalize profile output => normalizeProfile profile output
  | .link profile source target inbound output =>
    linkProfile profile ⟨source, inbound⟩ target output
  | .remove profile tag output => removeFromProfile profile tag output
  | .groups config => listGroups config
  | .deploy profile url force watch => return ← deployProfile active profile url force watch
  return none

/-- How the program ends. -/
inductive Outcome
  | finished
  | misused
  | failed (failure : Failure)
  /-- The program goes on until the user ends it. -/
  | watching (watch : Watch)

/-- The code with which the program ends. -/
def Outcome.exitCode : Outcome → UInt32
  | finished | watching _ => 0
  | failed _ => 1
  | misused => 2

/-- The line that tells of a failure. -/
def Failure.line (failure : Failure) : String :=
  "❌ " ++ failure.message

/-- The name of the program and its version. -/
def versionLine : String := "hopchain 0.1.0"

/-- The line that tells how the program is used. -/
def usageLine : String :=
  "Usage: hopchain [OPTIONS] <COMMAND> where <COMMAND> is one of "
    ++ ", ".intercalate commandNames

/-- Carries out a command line that is no invocation. -/
def Stop.perform : Stop → Program Outcome
  | .misuse => .done .misused
  | .version => .print versionLine (.done .finished)
  | .help => .print usageLine (.done .finished)

/-- Carries out an invocation. -/
def Invocation.perform (i : Invocation) : Program Outcome := do
  match ← i.attempt.run with
  | .ok none => return .finished
  | .ok (some watch) => return .watching watch
  | .error failure => return .failed failure

/-- What a command line asks for, and how its records are shown. -/
def perform (line : List String) : Log.Style × Program Outcome :=
  match Invocation.read line with
  | .ok i => ({ verbose := i.verbose, json := i.jsonLog }, i.perform)
  | .error stop => ({}, stop.perform)

end ProxyChain.Command
