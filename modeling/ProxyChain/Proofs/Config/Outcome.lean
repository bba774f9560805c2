import ProxyChain.Proofs.Config.Compile
import ProxyChain.Proofs.RoundRobin.Checks

/-!
# ProxyChain.Proofs.Config.Outcome

**When compiling fails, and with which error.** After planning nothing can fail, so a topology can
be compiled exactly if all round-robin nodes of its normal form can be planned and their outputs
agree. An error is that of the first node that cannot be planned; only where there is none it is
about outputs.
-/

namespace ProxyChain

open RoundRobin ProxyChain.Topology

theorem compile_eq_error_iff {settings : CompilerSettings} {t : Topology} {e : CompileError} :
    compile settings t = .error e ↔ planOf settings t.normalize = .error e := by
  rw [compile_eq_map]
  cases planOf settings t.normalize <;> simp [Except.map]

theorem allFit_and_outputsAgree_of_compile {settings : CompilerSettings} {t : Topology}
    {config : RuntimeConfig} (hplain : ∀ d ∈ t.library, Tag.isSystem d.tag = false)
    (hbases : settings.listenBasePort < settings.backendBasePort)
    (h : compile settings t = .ok config) :
    AllFit settings.portLayout t.normalize 0 t.normalize.roundRobins ∧
      OutputsAgree t.normalize := by
  obtain ⟨plan, hplan, -⟩ := compile_eq_ok_iff.1 h
  exact ⟨allFit_of_build (isNormal_normalize t) hbases hplan,
    (plainPlan_of_planOf hplain hplan).outputsAgree⟩

theorem fault_or_conflict_of_compile {settings : CompilerSettings} {t : Topology}
    {e : CompileError} (hbases : settings.listenBasePort < settings.backendBasePort)
    (h : compile settings t = .error e) :
    FirstFault settings.portLayout t.normalize 0 t.normalize.roundRobins e ∨
      AllFit settings.portLayout t.normalize 0 t.normalize.roundRobins ∧
        Conflict settings.portLayout t.normalize e :=
  fault_or_conflict_of_build (isNormal_normalize t) hbases (compile_eq_error_iff.1 h)

/-- A topology is compiled if and only if each of its round-robin nodes can be planned and pools
with a common member agree on the output. Otherwise the error is about the first node that cannot
be planned, and about outputs only where all nodes can. -/
theorem compile_outcome {settings : CompilerSettings} {t : Topology}
    (hplain : ∀ d ∈ t.library, Tag.isSystem d.tag = false)
    (hbases : settings.listenBasePort < settings.backendBasePort) :
    ((∃ config, compile settings t = .ok config) ↔
      AllFit settings.portLayout t.normalize 0 t.normalize.roundRobins ∧
        OutputsAgree t.normalize) ∧
    ∀ e, compile settings t = .error e →
      FirstFault settings.portLayout t.normalize 0 t.normalize.roundRobins e ∨
        AllFit settings.portLayout t.normalize 0 t.normalize.roundRobins ∧
          Conflict settings.portLayout t.normalize e := by
  refine ⟨⟨?_, ?_⟩, fun e => fault_or_conflict_of_compile hbases⟩
  · rintro ⟨config, hcompile⟩
    exact allFit_and_outputsAgree_of_compile hplain hbases hcompile
  · rintro ⟨hfit, hagree⟩
    cases hcompile : compile settings t with
    | ok config => exact ⟨config, rfl⟩
    | error e =>
        rcases fault_or_conflict_of_compile hbases hcompile with hfault | ⟨-, hconflict⟩
        · exact absurd hfit hfault.not_allFit
        · exact absurd hagree hconflict.not_outputsAgree

/-- A round-robin node with one pool member, behind one with two. -/
def loneMember : Topology where
  layers := [
    { id := "layer-1"
      nodes := [{ tag := "pair", detours := ["x", "y"] }, { tag := "lone", detours := ["x"] }] },
    { id := "layer-2", nodes := [{ tag := "x" }, { tag := "y" }] }]
  library := [.internet, .named "pair" .roundRobin, .named "lone" .roundRobin, .named "x" .vmess,
    .named "y" .trojan]

theorem lone_member_first_fault : (∀ d ∈ loneMember.library, Tag.isSystem d.tag = false) ∧
    ({} : CompilerSettings).listenBasePort < ({} : CompilerSettings).backendBasePort ∧
    compile {} loneMember = .error (.poolSize "lone" 1) ∧
    FirstFault {} loneMember.normalize 0 loneMember.normalize.roundRobins (.poolSize "lone" 1) := by
  have hplain : ∀ d ∈ loneMember.library, Tag.isSystem d.tag = false := by decide
  have hbases : ({} : CompilerSettings).listenBasePort <
      ({} : CompilerSettings).backendBasePort := by decide
  have hcompile : compile {} loneMember = .error (.poolSize "lone" 1) := by decide +kernel
  refine ⟨hplain, hbases, hcompile, ?_⟩
  rcases (compile_outcome hplain hbases).2 _ hcompile with hfault | ⟨-, hconflict⟩
  · exact hfault
  · cases hconflict

end ProxyChain
