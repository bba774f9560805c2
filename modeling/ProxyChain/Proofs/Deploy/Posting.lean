import ProxyChain.Deploy.Client
import ProxyChain.Proofs.Program.Run

/-!
# ProxyChain.Proofs.Deploy.Posting

**What posting a config comes to.** The request of a config is posted again as long as the reply is
an error that may pass and attempts are left (`Posted`); the last reply decides what comes of it
(`postConfig_cases`). So a config counts as posted exactly if one of the replies takes it
(`isOk_postConfig_iff`): the replies before the last one are errors, which take nothing.
-/

namespace ProxyChain

/-! ### Replies -/

/-- Whether a reply says that the config was taken. -/
def Net.Reply.takes (reply : Net.Reply) : Bool :=
  (SaveResponse.ofReply reply).toOption.any SaveResponse.isSuccess

/-- What comes of an answer: one that does not take the config is an error. -/
def SaveResponse.verdict (response : SaveResponse) : Except ChainError SaveResponse :=
  if response.isSuccess then .ok response else .error response.rejection

theorem Net.Reply.takes_iff {reply : Net.Reply} : reply.takes = true ↔
    ∃ response, (SaveResponse.ofReply reply).bind SaveResponse.verdict = .ok response := by
  rw [takes]
  cases SaveResponse.ofReply reply with
  | error error => simp [Except.toOption, Except.bind]
  | ok response =>
      cases hsuccess : response.isSuccess <;>
        simp [Except.toOption, Except.bind, SaveResponse.verdict, hsuccess]

/-- An error that may pass takes nothing. -/
theorem Net.Reply.takes_eq_false {reply : Net.Reply}
    (h : (RetryPolicy.passing? (SaveResponse.ofReply reply)).isSome = true) :
    reply.takes = false := by
  rw [takes]
  cases hreply : SaveResponse.ofReply reply with
  | error error => rfl
  | ok response =>
      rw [hreply] at h
      cases h

/-- The replies to the requests of a run. -/
def Transcript.replies (t : Transcript α) (s : Surroundings) : List Net.Reply :=
  (List.range t.requests.length).map s.replies

/-! ### Trying again -/

/-- A run posts a request, and posts it again behind each of so many replies. -/
structure Posted (request : Net.Request) (s : Surroundings) (t : Transcript α) (failed : Nat) :
    Prop where
  requests_eq : t.requests = List.replicate (failed + 1) request
  replies_after : t.after.replies = fun n => s.replies (n + (failed + 1))
  passing : ∀ n < failed, (RetryPolicy.passing? (SaveResponse.ofReply (s.replies n))).isSome = true

/-- Of the replies only the last one may take the config. -/
theorem Posted.any_takes {request : Net.Request} {s : Surroundings} {t : Transcript α}
    {failed : Nat} (h : Posted request s t failed) :
    (t.replies s).any Net.Reply.takes = (s.replies failed).takes := by
  have hearlier : ((List.range failed).map s.replies).any Net.Reply.takes = false := by
    rw [List.any_eq_false]
    intro reply hreply
    obtain ⟨n, hn, rfl⟩ := List.mem_map.1 hreply
    rw [Net.Reply.takes_eq_false (h.passing n (List.mem_range.1 hn))]
    exact Bool.false_ne_true
  rw [Transcript.replies, h.requests_eq, List.length_replicate, List.range_succ, List.map_append,
    List.any_append, hearlier, Bool.false_or, List.map_singleton, List.any_cons, List.any_nil,
    Bool.or_false]

namespace DeployClient

section

variable (request : Net.Request) (s : Surroundings)

@[simp] theorem result_attempt :
    ((attempt request).run s).result = SaveResponse.ofReply (s.replies 0) :=
  Program.result_ofExcept _ _

@[simp] theorem replies_after_attempt :
    ((attempt request).run s).after.replies = fun n => s.replies (n + 1) := by
  show ((Program.ofExcept _).run { s with replies := _ }).after.replies = _
  rw [Program.after_ofExcept]

@[simp] theorem requests_attempt : ((attempt request).run s).requests = [request] := by
  show request :: ((Program.ofExcept _).run { s with replies := _ }).requests = _
  rw [Program.requests_ofExcept]

@[simp] theorem result_conclude (detailed : Bool) (response : SaveResponse) :
    ((conclude detailed response).run s).result = response.verdict := by
  cases hdetailed : detailed || !response.isSuccess <;> cases hsuccess : response.isSuccess <;>
    simp_all [conclude, SaveResponse.verdict]

@[simp] theorem after_conclude (detailed : Bool) (response : SaveResponse) :
    ((conclude detailed response).run s).after = s := by
  cases hdetailed : detailed || !response.isSuccess <;> cases hsuccess : response.isSuccess <;>
    simp_all [conclude]

@[simp] theorem requests_conclude (detailed : Bool) (response : SaveResponse) :
    ((conclude detailed response).run s).requests = [] := by
  cases hdetailed : detailed || !response.isSuccess <;> cases hsuccess : response.isSuccess <;>
    simp_all [conclude]

end

end DeployClient

namespace RetryPolicy

section

variable (policy : RetryPolicy) (label : String) (attempt : Nat) (result : Except ChainError α)
  (s : Surroundings)

@[simp] theorem result_conclude :
    ((policy.conclude label attempt result).run s).result = result := by
  simp [conclude]

@[simp] theorem after_conclude : ((policy.conclude label attempt result).run s).after = s := by
  simp [conclude]

@[simp] theorem requests_conclude :
    ((policy.conclude label attempt result).run s).requests = [] := by
  simp [conclude]

end

variable (policy : RetryPolicy) (label : String) (request : Net.Request)

/-- Behind an error that may pass, a request is tried again with one attempt and one reply less. -/
theorem tryFrom_again (attempt left : Nat) {s : Surroundings} {error : ChainError}
    (hpassing : passing? (SaveResponse.ofReply (s.replies 0)) = some error) :
    let operation := fun _ => DeployClient.attempt request
    let t := (policy.tryFrom label operation attempt (left + 1)).run s
    ∃ next : Surroundings, next.replies = (fun n => s.replies (n + 1)) ∧
      let u := (policy.tryFrom label operation (attempt + 1) left).run next
      t.result = u.result ∧ t.after = u.after ∧ t.requests = request :: u.requests := by
  -- The reply is spent, and so is the random number that decides for how long to wait.
  let before := ((DeployClient.attempt request).run s).after
  refine ⟨{ before with numbers := fun n => before.numbers (n + 1) },
    DeployClient.replies_after_attempt request s, ?_, ?_, ?_⟩
  all_goals simp [tryFrom, hpassing, waitBehind, Program.run, before]

/-- A request is posted until a reply is no error that may pass, or no attempt is left. The last
reply is the result. -/
theorem posted_tryFrom (attempt left : Nat) (s : Surroundings) :
    let t := (policy.tryFrom label (fun _ => DeployClient.attempt request) attempt left).run s
    ∃ failed ≤ left, Posted request s t failed ∧
      t.result = SaveResponse.ofReply (s.replies failed) ∧
      (failed < left → passing? t.result = none) := by
  induction left generalizing attempt s with
  | zero =>
      refine ⟨0, Nat.le_refl 0, ⟨?_, ?_, ?_⟩, ?_, ?_⟩
      all_goals simp [tryFrom]
  | succ left ih =>
      cases hpassing : passing? (SaveResponse.ofReply (s.replies 0)) with
      | none =>
          refine ⟨0, Nat.zero_le _, ⟨?_, ?_, ?_⟩, ?_, ?_⟩
          all_goals simp [tryFrom, hpassing]
      | some error =>
          obtain ⟨next, hnext, hresult, hafter, hrequests⟩ :=
            policy.tryFrom_again label request attempt left hpassing
          -- The other attempts see the same replies, each one place earlier.
          obtain ⟨failed, hle, hposted, hreply, hlast⟩ := ih (attempt + 1) next
          refine ⟨failed + 1, Nat.succ_le_succ hle, ⟨?_, ?_, ?_⟩, ?_, ?_⟩
          · rw [hrequests, hposted.requests_eq, ← List.replicate_succ]
          · rw [hafter, hposted.replies_after, hnext]
            rfl
          · intro n hn
            cases n with
            | zero => rw [hpassing]; rfl
            | succ n =>
                have hearlier := hposted.passing n (Nat.lt_of_succ_lt_succ hn)
                rwa [hnext] at hearlier
          · rw [hresult, hreply, hnext]
          · intro hlt
            rw [hresult]
            exact hlast (Nat.lt_of_succ_lt_succ hlt)

end RetryPolicy

/-! ### Posting -/

namespace DeployClient

variable (client : DeployClient) (config : RuntimeConfig) (detailed : Bool) (s : Surroundings)

/-- A config is posted in a request of the client's, and the last reply decides. Without an address
for it nothing is posted. -/
theorem postConfig_cases :
    let t := (client.postConfig config detailed).run s
    (∃ error, client.saveUrl = .error error ∧
      t.requests = [] ∧ t.after = s ∧ t.result = .error error) ∨
    ∃ url failed, client.saveUrl = .ok url ∧ failed < client.policy.attempts ∧
      Posted ⟨url, requestBody config, client.patience⟩ s t failed ∧
      t.result = (SaveResponse.ofReply (s.replies failed)).bind SaveResponse.verdict ∧
      (failed + 1 < client.policy.attempts →
        RetryPolicy.passing? (SaveResponse.ofReply (s.replies failed)) = none) := by
  cases hurl : client.saveUrl with
  | error error =>
      left
      refine ⟨error, rfl, ?_, ?_, ?_⟩
      all_goals simp [postConfig, hurl]
  | ok url =>
      right
      obtain ⟨failed, hle, hposted, hreply, hlast⟩ := client.policy.posted_tryFrom "save_config"
        ⟨url, requestBody config, client.patience⟩ 0 (client.policy.attempts - 1) s
      have hattempts : 1 ≤ client.policy.attempts := Nat.le_max_right _ _
      rw [hreply] at hlast
      refine ⟨url, failed, rfl, by omega, ⟨?_, ?_, hposted.passing⟩, ?_,
        fun hlt => hlast (by omega)⟩
      all_goals
        cases hfinal : SaveResponse.ofReply (s.replies failed) <;>
          simp [postConfig, hurl, RetryPolicy.execute, hreply, hfinal, hposted.requests_eq,
            hposted.replies_after, Except.bind]

/-- Every request that is posted for a config carries it. -/
theorem body_of_mem_requests_postConfig {request : Net.Request}
    (hrequest : request ∈ ((client.postConfig config detailed).run s).requests) :
    request.body = requestBody config := by
  rcases client.postConfig_cases config detailed s with
    ⟨error, -, hrequests, -, -⟩ | ⟨url, failed, -, -, hposted, -, -⟩
  · rw [hrequests] at hrequest
    cases hrequest
  · rw [hposted.requests_eq] at hrequest
    rw [List.eq_of_mem_replicate hrequest]

/-- A config is posted with success exactly if one of the replies takes it. -/
theorem isOk_postConfig_iff :
    let t := (client.postConfig config detailed).run s
    (∃ response, t.result = .ok response) ↔ (t.replies s).any Net.Reply.takes = true := by
  rcases client.postConfig_cases config detailed s with
    ⟨error, -, hrequests, -, hresult⟩ | ⟨url, failed, -, -, hposted, hresult, -⟩
  · simp [Transcript.replies, hrequests, hresult]
  · simp only [hposted.any_takes, hresult]
    exact Net.Reply.takes_iff.symm

end DeployClient

end ProxyChain
