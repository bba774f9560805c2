import ProxyChain.Proofs.Config.Compile

/-!
# ProxyChain.Proofs.Config.Candidates

**The kind of a managed node is checked twice, and the second check never fails.** Planning looks at
the members of each pool with an output, by the kinds that they are placed as. Compiling looks at
the node for which an outbound is written, and asks the plan for its output. As a plan has outputs
for the members of such pools only (`Plan.leaf_of_outputFor?`), an outbound is written for each node,
whether a topology is in normal form or not (`assemble_ne_error`). The error of the second check is
not one of planning either (`compile_ne_candidateKind`).
-/

namespace ProxyChain

open RoundRobin ProxyChain.Topology

section

variable {t : Topology} {plan : Plan}

/-! ### The second check -/

/-- Only the second check can fail where an outbound is written. -/
theorem nodeOutbound_eq_error {index : Index} {kind : NodeKind} {node : PlacedNode}
    {e : CompileError} (h : nodeOutbound t index plan kind node = .error e) :
    kind.isSelectorLike = true ∧ ∃ output, plan.outputFor? node.tag = some output := by
  rw [nodeOutbound] at h
  cases houtput : plan.outputFor? node.tag with
  | none =>
      rw [houtput] at h
      dsimp only at h
      split at h <;> cases h
  | some output =>
      rw [houtput] at h
      dsimp only at h
      split at h
      · exact ⟨‹_›, output, rfl⟩
      · cases h

variable {layout : PortLayout} (hbuild : Plan.build t t.index layout = .ok plan)

include hbuild

/-- What has an output is compiled as a leaf. -/
theorem outboundKind_of_outputFor? {node : PlacedNode} {output : String}
    (h : plan.outputFor? node.tag = some output) : (outboundKind t t.index node).role = .leaf := by
  obtain ⟨kind, hkind, hleaf⟩ := Plan.leaf_of_outputFor? hbuild h
  rwa [outboundKind, hkind, Option.getD_some]

theorem addNodeOutbound_ne_error (outbounds : List Outbound) (node : PlacedNode)
    (e : CompileError) : addNodeOutbound t t.index plan outbounds node ≠ .error e := by
  intro h
  rw [addNodeOutbound] at h
  split at h
  · cases h
  · cases hnode : nodeOutbound t t.index plan (outboundKind t t.index node) node with
    | ok outbound => rw [hnode] at h; cases h
    | error e =>
        obtain ⟨hselector, output, houtput⟩ := nodeOutbound_eq_error hnode
        have hleaf := outboundKind_of_outputFor? hbuild houtput
        rw [NodeKind.isSelectorLike_of_leaf hleaf] at hselector
        cases hselector

/-- Once a topology is planned, a config is put together. -/
theorem assemble_ne_error (settings : CompilerSettings) (e : CompileError) :
    assemble settings t plan ≠ .error e := by
  intro h
  rw [assemble] at h
  cases hnodes : nodeOutbounds t t.index plan with
  | ok nodes => rw [hnodes] at h; cases h
  | error e =>
      obtain ⟨-, node, -, outbounds, -, -, hstep⟩ := foldlM_eq_error hnodes
      exact addNodeOutbound_ne_error hbuild outbounds node e hstep

end

/-! ### Compiling -/

/-- All errors of compiling are errors of planning. -/
theorem ofPlanning_of_compile {settings : CompilerSettings} {t : Topology} {e : CompileError}
    (h : compile settings t = .error e) : OfPlanning e := by
  rw [compile] at h
  cases hplan : planOf settings t.normalize with
  | error e =>
      rw [hplan] at h
      obtain rfl := Except.error.inj h
      exact Plan.ofPlanning_of_build hplan
  | ok plan =>
      rw [hplan] at h
      exact absurd h (assemble_ne_error hplan settings e)

/-- Compiling never fails for a managed node that is a selector, as no node for which a plan has an
output is one. -/
theorem compile_ne_candidateKind (settings : CompilerSettings) (t : Topology) :
    (∀ candidate kind, compile settings t ≠ .error (.candidateKind candidate kind)) ∧
      ∀ plan, planOf settings t.normalize = .ok plan → ∀ entry ∈ t.normalize.placed,
        ∀ output, plan.outputFor? entry.2.tag = some output →
          (t.normalize.kindOf entry.2).isSelectorLike = false := by
  constructor
  · intro candidate kind h
    cases ofPlanning_of_compile h
  · intro plan hplan entry hentry output houtput
    obtain ⟨kind, hkind, hleaf⟩ := Plan.leaf_of_outputFor? hplan houtput
    rw [(isNormal_normalize t).placedKind? hentry] at hkind
    obtain rfl := Option.some.inj hkind
    exact NodeKind.isSelectorLike_of_leaf hleaf

/-- Two members are managed by the round-robin node with an output. -/
theorem crossroads_managed_plain :
    ∃ plan, planOf {} crossroads.normalize = .ok plan ∧
      ∃ entry ∈ crossroads.normalize.placed, plan.outputFor? entry.2.tag = some "z" ∧
        (crossroads.normalize.kindOf entry.2).isSelectorLike = false := by
  have hentry : (1, { tag := "x" }) ∈ crossroads.normalize.placed := by decide
  have houtput : ((planOf {} crossroads.normalize).toOption.bind fun plan =>
      plan.outputFor? "x") = some "z" := by decide +kernel
  obtain ⟨plan, hplan, houtput⟩ := Option.bind_eq_some_iff.1 houtput
  have hplan : planOf {} crossroads.normalize = .ok plan := by
    cases hbuild : planOf {} crossroads.normalize with
    | error e => rw [hbuild] at hplan; cases hplan
    | ok built => rw [hbuild] at hplan; exact congrArg _ (Option.some.inj hplan)
  exact ⟨plan, hplan, _, hentry, houtput,
    (compile_ne_candidateKind {} crossroads).2 plan hplan _ hentry "z" houtput⟩

end ProxyChain
