import ProxyChain.Program.Run

/-!
# ProxyChain.Proofs.Program.Run

**Runs, part by part**: what a run gives, what it leaves and what it posts, for each way in which
programs are put together. The records of a run are left aside.
-/

namespace ProxyChain.Program

section

variable (p : Program α) (next : α → Program β) (s : Surroundings)

@[simp] theorem result_bind : ((p >>= next).run s).result =
    ((next (p.run s).result).run (p.run s).after).result := by
  rw [run_bind]
  rfl

@[simp] theorem after_bind : ((p >>= next).run s).after =
    ((next (p.run s).result).run (p.run s).after).after := by
  rw [run_bind]
  rfl

@[simp] theorem requests_bind : ((p >>= next).run s).requests =
    (p.run s).requests ++ ((next (p.run s).result).run (p.run s).after).requests := by
  rw [run_bind]
  rfl

end

variable (s : Surroundings)

@[simp] theorem run_pure (a : α) : (pure a : Program α).run s = { result := a, after := s } :=
  rfl

/-- Logging records does nothing else. -/
@[simp] theorem run_log (records : List Log.Record) : (log records).run s =
    { result := (), after := s, records := records } := by
  induction records with
  | nil => rfl
  | cons r rest ih =>
      show { (log rest).run s with records := r :: ((log rest).run s).records } = _
      rw [ih]

@[simp] theorem run_fail (error : ChainError) : (fail error : Program (Except ChainError α)).run s =
    { result := .error error, after := s, records := error.records } := by
  rw [fail, run_bind, run_log]
  simp [Transcript.append]

@[simp] theorem result_ofExcept (result : Except ChainError α) :
    ((ofExcept result).run s).result = result := by
  cases result with
  | ok a => rfl
  | error error => rw [ofExcept, run_fail]

@[simp] theorem after_ofExcept (result : Except ChainError α) :
    ((ofExcept result).run s).after = s := by
  cases result with
  | ok a => rfl
  | error error => rw [ofExcept, run_fail]

@[simp] theorem requests_ofExcept (result : Except ChainError α) :
    ((ofExcept result).run s).requests = [] := by
  cases result with
  | ok a => rfl
  | error error => rw [ofExcept, run_fail]

end ProxyChain.Program
