import ProxyChain.Deploy.Session
import ProxyChain.Proofs.Deploy.Posting
import ProxyChain.Proofs.Sequence

/-!
# ProxyChain.Proofs.Deploy.Session

**What a client remembers.** A deploy is skipped if its config is the one that the client remembers.
After any calls that is the config that the manager took last of those that were deployed
(`lastSent_performAll`), through which of the two calls for deploying, by force or not, and whatever
else was refused or never answered. A config that was saved is not remembered, though: the manager
may have taken it since, and the deploy is skipped all the same (`skipped_iff`).
-/

namespace ProxyChain

/-! ### The history of a session -/

namespace DeployCall

/-- The config that a call is about. There is none if the topology cannot be compiled. -/
def config? : DeployCall → Option RuntimeConfig
  | save config => some config
  | deploy config _ => some config
  | compileDeploy settings t _ => (compile settings t).toOption

/-- Whether a call saves its config, which is not the same as deploying it. -/
def isSave : DeployCall → Bool
  | save _ => true
  | deploy _ _ => false
  | compileDeploy _ _ _ => false

/-- Whether a call posts its config in any case. -/
def isForced : DeployCall → Bool
  | save _ => true
  | deploy _ force => force
  | compileDeploy _ _ force => force

end DeployCall

/-- A call of a session, with what was posted for it, what came back, and what it came to. -/
structure DeployEntry where
  call : DeployCall
  requests : List Net.Request
  replies : List Net.Reply
  result : Except ChainError DeployResult

namespace DeployEntry

/-- The config of a call if the manager took it. -/
def taken? (entry : DeployEntry) : Option RuntimeConfig :=
  if entry.replies.any Net.Reply.takes then entry.call.config? else none

/-- The config of a call if the manager took it and it was not just saved. -/
def deployed? (entry : DeployEntry) : Option RuntimeConfig :=
  if entry.call.isSave then none else entry.taken?

theorem deployed?_eq_some_iff {entry : DeployEntry} {config : RuntimeConfig} :
    entry.deployed? = some config ↔ entry.call.isSave = false ∧ entry.taken? = some config := by
  rw [deployed?]
  cases entry.call.isSave <;> simp

theorem deployed?_eq_none_iff {entry : DeployEntry} :
    entry.deployed? = none ↔ entry.call.isSave = true ∨ entry.taken? = none := by
  rw [deployed?]
  cases entry.call.isSave <;> simp

end DeployEntry

namespace DeployClient

/-- A call in the history. -/
def entry (client : DeployClient) (s : Surroundings) (call : DeployCall) : DeployEntry :=
  let t := (client.perform call).run s
  { call := call, requests := t.requests, replies := t.replies s, result := t.result.2 }

/-- The history of calls that are made one after another. -/
def history (client : DeployClient) (s : Surroundings) : List DeployCall → List DeployEntry
  | [] => []
  | call :: rest =>
    let t := (client.perform call).run s
    client.entry s call :: t.result.1.history t.after rest

/-- A history has the results and the requests of the session. -/
theorem history_performAll (client : DeployClient) (s : Surroundings) (calls : List DeployCall) :
    let t := (client.performAll calls).run s
    t.result.2 = (client.history s calls).map DeployEntry.result ∧
      t.requests = (client.history s calls).flatMap DeployEntry.requests := by
  induction calls generalizing client s with
  | nil => exact ⟨rfl, rfl⟩
  | cons call rest ih =>
      have hrest := ih ((client.perform call).run s).result.1 ((client.perform call).run s).after
      simp [performAll, history, entry, hrest.1, hrest.2]

/-! ### One call -/

/-- All that a call can come to. -/
inductive Outcome (client : DeployClient) (s : Surroundings) (call : DeployCall)
    (t : Transcript (DeployClient × Except ChainError DeployResult)) : Prop
  | uncompiled (error : ChainError) (hconfig : call.config? = none) (hrequests : t.requests = [])
      (hresult : t.result = (client, .error error))
  | skipped {config : RuntimeConfig} (hconfig : call.config? = some config)
      (hforced : call.isForced = false) (hsent : client.lastSent = some (signature config))
      (hrequests : t.requests = []) (hresult : t.result = (client, .ok (.sent false)))
  | refused {config : RuntimeConfig} {error : ChainError} (hconfig : call.config? = some config)
      (hsent : call.isForced = false → client.lastSent ≠ some (signature config))
      (hbodies : ∀ request ∈ t.requests, request.body = requestBody config)
      (htaken : (t.replies s).any Net.Reply.takes = false)
      (hresult : t.result = (client, .error error))
  | taken {config : RuntimeConfig} {result : DeployResult} (hconfig : call.config? = some config)
      (hsent : call.isForced = false → client.lastSent ≠ some (signature config))
      (hbodies : ∀ request ∈ t.requests, request.body = requestBody config)
      (htaken : (t.replies s).any Net.Reply.takes = true) (hsent_result : result ≠ .sent false)
      (hresult : t.result = (if call.isSave then client else
        { client with lastSent := some (signature config) }, .ok result))

section

variable (client : DeployClient) (s : Surroundings)

/-- A call that posts a config comes to what posting it comes to. -/
theorem outcome_of_post {call : DeployCall} {config : RuntimeConfig}
    (hconfig : call.config? = some config)
    (hsent : call.isForced = false → client.lastSent ≠ some (signature config)) (detailed : Bool)
    {t : Transcript (DeployClient × Except ChainError DeployResult)}
    (hrequests : t.requests = ((client.postConfig config detailed).run s).requests)
    (herror : ∀ error, ((client.postConfig config detailed).run s).result = .error error →
      t.result = (client, .error error))
    (hok : ∀ response, ((client.postConfig config detailed).run s).result = .ok response →
      ∃ result, result ≠ .sent false ∧ t.result = (if call.isSave then client else
        { client with lastSent := some (signature config) }, .ok result)) :
    Outcome client s call t := by
  have hreplies : t.replies s = ((client.postConfig config detailed).run s).replies s := by
    rw [Transcript.replies, hrequests]
    rfl
  have hbodies : ∀ request ∈ t.requests, request.body = requestBody config := by
    intro request hrequest
    rw [hrequests] at hrequest
    exact client.body_of_mem_requests_postConfig config detailed s hrequest
  have htakes : (∃ response, ((client.postConfig config detailed).run s).result = .ok response) ↔
      (t.replies s).any Net.Reply.takes = true := by
    rw [hreplies]
    exact client.isOk_postConfig_iff config detailed s
  cases hresult : ((client.postConfig config detailed).run s).result with
  | error error =>
      refine .refused hconfig hsent hbodies ?_ (herror error hresult)
      rw [← Bool.not_eq_true, ← htakes, hresult]
      rintro ⟨_, hok⟩
      cases hok
  | ok response =>
      obtain ⟨result, hne, hresult'⟩ := hok response hresult
      exact .taken hconfig hsent hbodies (htakes.1 ⟨response, hresult⟩) hne hresult'

theorem outcome_of_deploy {call : DeployCall} {config : RuntimeConfig}
    (hconfig : call.config? = some config) (hsave : call.isSave = false)
    {t : Transcript (DeployClient × Except ChainError DeployResult)}
    (hrequests : t.requests = ((client.deployIfChanged config call.isForced).run s).requests)
    (hresult : t.result = (((client.deployIfChanged config call.isForced).run s).result.1,
      ((client.deployIfChanged config call.isForced).run s).result.2.map .sent)) :
    Outcome client s call t := by
  by_cases hskip : call.isForced = false ∧ client.lastSent = some (signature config)
  · refine .skipped hconfig hskip.1 hskip.2 ?_ ?_
    · rw [hrequests]
      simp [deployIfChanged, hskip]
    · rw [hresult]
      simp [deployIfChanged, hskip, Except.map]
  · have hsent : call.isForced = false → client.lastSent ≠ some (signature config) :=
      fun hforced heq => hskip ⟨hforced, heq⟩
    have hpost :
        (!call.isForced && decide (client.lastSent = some (signature config))) = false := by
      simpa using hsent
    refine client.outcome_of_post s hconfig hsent false ?_ (fun error herror => ?_)
      (fun response hok => ⟨.sent true, by decide, ?_⟩)
    · rw [hrequests]
      cases hresult : ((client.postConfig config false).run s).result <;>
        simp [deployIfChanged, hpost, hresult]
    · rw [hresult]
      simp [deployIfChanged, hpost, herror, Except.map]
    · rw [hresult]
      simp [deployIfChanged, hpost, hok, hsave, Except.map]

/-- A call comes to one of these. -/
theorem outcome_perform (call : DeployCall) :
    Outcome client s call ((client.perform call).run s) := by
  cases call with
  | save config =>
      refine client.outcome_of_post s rfl (by simp [DeployCall.isForced]) true ?_
        (fun error herror => ?_) (fun response hok => ⟨.saved response, by simp, ?_⟩)
      · simp [perform, saveConfig]
      · simp [perform, saveConfig, herror, Except.map]
      · simp [perform, saveConfig, hok, Except.map, DeployCall.isSave]
  | deploy config force =>
      refine client.outcome_of_deploy s rfl rfl ?_ ?_
      · simp [perform, DeployCall.isForced]
      · simp [perform, DeployCall.isForced]
  | compileDeploy settings topology force =>
      cases hcompile : compile settings topology with
      | error error =>
          refine .uncompiled (.compile error) (by rw [DeployCall.config?, hcompile]; rfl) ?_ ?_
          · simp [perform, compileAndDeploy, hcompile]
          · simp [perform, compileAndDeploy, hcompile, Except.map]
      | ok config =>
          refine client.outcome_of_deploy s (by rw [DeployCall.config?, hcompile]; rfl) rfl ?_ ?_
          · simp [perform, compileAndDeploy, hcompile, DeployCall.isForced]
          · simp [perform, compileAndDeploy, hcompile, DeployCall.isForced]

/-- A call makes the client remember the config that was deployed by it. -/
theorem lastSent_perform (call : DeployCall) : ((client.perform call).run s).result.1.lastSent =
    ((client.entry s call).deployed?.map signature).or client.lastSent := by
  rw [DeployEntry.deployed?, DeployEntry.taken?]
  show _ = ((if call.isSave then none else
    if (((client.perform call).run s).replies s).any Net.Reply.takes then call.config? else
      none).map signature).or client.lastSent
  cases client.outcome_perform s call with
  | uncompiled error hconfig _ hresult => simp [hconfig, hresult]
  | skipped hconfig _ _ hrequests hresult => simp [Transcript.replies, hrequests, hresult]
  | refused hconfig _ _ htaken hresult => simp [htaken, hresult]
  | taken hconfig _ _ htaken _ hresult =>
      cases hsave : call.isSave <;> simp [hconfig, htaken, hresult, hsave]

/-- A call is skipped exactly if it is not forced and its config is the one that is remembered. -/
theorem result_perform_eq_iff (call : DeployCall) :
    ((client.perform call).run s).result.2 = .ok (.sent false) ↔ call.isForced = false ∧
      ∃ config, call.config? = some config ∧ client.lastSent = some (signature config) := by
  cases client.outcome_perform s call with
  | uncompiled error hconfig _ hresult => simp [hconfig, hresult]
  | skipped hconfig hforced hsent _ hresult => simp [hconfig, hforced, hsent, hresult]
  | refused hconfig hsent _ _ hresult =>
      simp only [hresult, hconfig]
      simpa using hsent
  | taken hconfig hsent _ _ hne hresult =>
      simp only [hresult, hconfig]
      simpa [hne] using hsent

/-- What is posted for a call is its config. -/
theorem body_of_mem_requests_perform (call : DeployCall) {request : Net.Request}
    (hrequest : request ∈ ((client.perform call).run s).requests) :
    ∃ config, call.config? = some config ∧ request.body = requestBody config := by
  cases client.outcome_perform s call with
  | uncompiled _ _ hrequests => rw [hrequests] at hrequest; cases hrequest
  | skipped _ _ _ hrequests => rw [hrequests] at hrequest; cases hrequest
  | refused hconfig _ hbodies => exact ⟨_, hconfig, hbodies request hrequest⟩
  | taken hconfig _ hbodies => exact ⟨_, hconfig, hbodies request hrequest⟩

end

/-! ### Any calls -/

theorem body_of_mem_history (client : DeployClient) (s : Surroundings) (calls : List DeployCall) :
    ∀ entry ∈ client.history s calls, ∀ request ∈ entry.requests,
      ∃ config, entry.call.config? = some config ∧ request.body = requestBody config := by
  induction calls generalizing client s with
  | nil =>
      intro entry hentry
      cases hentry
  | cons call rest ih =>
      intro entry hentry request hrequest
      rcases List.mem_cons.1 hentry with rfl | hrest
      · exact client.body_of_mem_requests_perform s call hrequest
      · exact ih _ _ entry hrest request hrequest

/-- After any calls a client remembers the config that was deployed last. -/
theorem lastSent_performAll (client : DeployClient) (s : Surroundings) (calls : List DeployCall) :
    ((client.performAll calls).run s).result.1.lastSent =
      (((client.history s calls).filterMap DeployEntry.deployed?).getLast?.map signature).or
        client.lastSent := by
  induction calls generalizing client s with
  | nil => rfl
  | cons call rest ih =>
      have hstep := client.lastSent_perform s call
      have hrest := ih ((client.perform call).run s).result.1 ((client.perform call).run s).after
      have hrun : ((client.performAll (call :: rest)).run s).result.1.lastSent =
          ((((client.perform call).run s).result.1.performAll rest).run
            ((client.perform call).run s).after).result.1.lastSent := by
        simp [performAll]
      rw [hrun, hrest, hstep, history, List.filterMap_cons]
      cases (client.entry s call).deployed? with
      | none => simp
      | some config =>
          rw [List.getLast?_cons]
          cases (List.filterMap _ _).getLast? <;> simp

/-- A new client remembers nothing. -/
theorem lastSent_withPolicy {settings : DeploySettings} {policy : RetryPolicy}
    {client : DeployClient} (h : withPolicy settings policy = .ok client) :
    client.lastSent = none := by
  rw [withPolicy] at h
  cases hurl : Net.Url.parse settings.baseUrl with
  | error fault => rw [hurl] at h; cases h
  | ok url => rw [hurl] at h; cases h; rfl

/-- A call is skipped exactly if it is not forced and the config that was deployed last has the text
of its config. So behind that deploy the manager took no other config unless it was saved. -/
theorem skipped_iff {settings : DeploySettings} {policy : RetryPolicy} {client : DeployClient}
    (hclient : withPolicy settings policy = .ok client) (s : Surroundings)
    (calls : List DeployCall) (call : DeployCall) :
    let t := (client.performAll calls).run s
    ((t.result.1.perform call).run t.after).result.2 = .ok (.sent false) ↔
      call.isForced = false ∧ ∃ config, call.config? = some config ∧
        ∃ front entry back last, client.history s calls = front ++ entry :: back ∧
          (entry.call.isSave = false ∧ entry.taken? = some last) ∧
          signature last = signature config ∧
          ∀ later ∈ back, later.call.isSave = true ∨ later.taken? = none := by
  intro t
  rw [result_perform_eq_iff, client.lastSent_performAll s calls, lastSent_withPolicy hclient,
    Option.or_none]
  refine and_congr_right fun _ => exists_congr fun config => and_congr_right fun _ => ?_
  rw [Option.map_eq_some_iff]
  constructor
  · rintro ⟨last, hlast, htext⟩
    obtain ⟨front, entry, back, hhistory, hentry, hback⟩ := getLast?_filterMap_eq_some_iff.1 hlast
    exact ⟨front, entry, back, last, hhistory, DeployEntry.deployed?_eq_some_iff.1 hentry, htext,
      fun later hlater => DeployEntry.deployed?_eq_none_iff.1 (hback later hlater)⟩
  · rintro ⟨front, entry, back, last, hhistory, hentry, htext, hback⟩
    refine ⟨last, getLast?_filterMap_eq_some_iff.2 ⟨front, entry, back, hhistory, ?_, ?_⟩, htext⟩
    · exact DeployEntry.deployed?_eq_some_iff.2 hentry
    · exact fun later hlater => DeployEntry.deployed?_eq_none_iff.2 (hback later hlater)

end DeployClient

/-! ### A config that is saved behind a deploy -/

/-- A manager that takes every config. -/
def Surroundings.willing : Surroundings where
  directory := ⟨[]⟩
  replies _ := .answer 200 "\x7b\"status\":\"success\"\x7d"
  numbers _ := 0

/-- The first config, with more records. -/
def RuntimeConfig.talkative : RuntimeConfig :=
  { RuntimeConfig.initial with log := { level := "debug" } }

namespace DeployClient

/-- A deploy, a save of another config, and the same deploy again: it is skipped. -/
theorem exists_skipped_willing : ∃ client, withPolicy {} { maxAttempts := 1 } = .ok client ∧
    let calls := [.deploy .initial false, .save .talkative]
    let t := (client.performAll calls).run .willing
    ((t.result.1.perform (.deploy .initial false)).run t.after).result.2 = .ok (.sent false) ∧
      (client.history .willing calls).filterMap DeployEntry.taken? = [.initial, .talkative] := by
  have hrun : (withPolicy {} { maxAttempts := 1 }).toOption.any (fun client =>
      let calls := [.deploy .initial false, .save .talkative]
      let t := (client.performAll calls).run .willing
      decide (((t.result.1.perform (.deploy .initial false)).run t.after).result.2 =
          .ok (.sent false) ∧
        (client.history .willing calls).filterMap DeployEntry.taken? =
          [.initial, .talkative])) = true := by
    decide +kernel
  cases hclient : withPolicy {} { maxAttempts := 1 } with
  | error error => rw [hclient] at hrun; cases hrun
  | ok client =>
      rw [hclient] at hrun
      exact ⟨client, rfl, of_decide_eq_true hrun⟩

theorem skipped_iff_willing : ∃ client, withPolicy {} { maxAttempts := 1 } = .ok client ∧
    let calls := [.deploy .initial false, .save .talkative]
    let t := (client.performAll calls).run .willing
    let call := .deploy .initial false
    ((t.result.1.perform call).run t.after).result.2 = .ok (.sent false) ∧
      call.isForced = false ∧ ∃ config, call.config? = some config ∧
        ∃ front entry back last, client.history .willing calls = front ++ entry :: back ∧
          (entry.call.isSave = false ∧ entry.taken? = some last) ∧
          signature last = signature config ∧
          ∀ later ∈ back, later.call.isSave = true ∨ later.taken? = none := by
  obtain ⟨client, hclient, hskipped, -⟩ := exists_skipped_willing
  exact ⟨client, hclient, hskipped, (skipped_iff hclient .willing _ _).1 hskipped⟩

/-- So the config that the manager took last need not be the one whose deploy is skipped. -/
theorem not_forall_skipped_taken : ¬ ∀ (settings : DeploySettings) (policy : RetryPolicy)
    (client : DeployClient) (s : Surroundings) (calls : List DeployCall) (call : DeployCall),
      withPolicy settings policy = .ok client →
      let t := (client.performAll calls).run s
      ((t.result.1.perform call).run t.after).result.2 = .ok (.sent false) →
        ∃ config last, call.config? = some config ∧
          ((client.history s calls).filterMap DeployEntry.taken?).getLast? = some last ∧
          signature last = signature config := by
  intro hsafe
  obtain ⟨client, hclient, hskipped, htaken⟩ := exists_skipped_willing
  obtain ⟨config, last, hconfig, hlast, htext⟩ := hsafe _ _ client _ _ _ hclient hskipped
  rw [htaken] at hlast
  obtain rfl : RuntimeConfig.initial = config := Option.some.inj hconfig
  obtain rfl : RuntimeConfig.talkative = last := Option.some.inj hlast
  exact absurd htext (by decide +kernel)

end DeployClient

end ProxyChain
