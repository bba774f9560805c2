import ProxyChain.Proofs.Deploy.Posting

/-!
# ProxyChain.Proofs.Deploy.Attempts

**How often a config is posted, and what comes of it.** A reply may pass if it is no answer or says
that the manager is at fault (`Net.Reply.mayPass`). A config that is saved is posted until the first
reply that is not of this kind, or until the attempts are used up (`PostCount`), and the last reply
alone decides (`Net.Reply.Decides`). So once the manager gave any other answer, it does not get the
config again, whether it took it or not.
-/

namespace ProxyChain

/-! ### Replies -/

namespace Net

theorem isSuccess_iff {status : Nat} : isSuccess status = true ↔ 200 ≤ status ∧ status < 300 := by
  simp [isSuccess]

theorem isServerFault_iff {status : Nat} :
    isServerFault status = true ↔ 500 ≤ status ∧ status < 600 := by
  simp [isServerFault]

namespace Reply

/-- Whether there is no answer, or one that says that the peer is at fault. -/
def mayPass : Reply → Bool
  | unreachable _ | timedOut _ | unreadable _ => true
  | answer status _ => isServerFault status

/-- What saving a config comes to where a reply is the last one. -/
inductive Decides : Reply → Except ChainError SaveResponse → Prop
  | timedOut (detail : String) :
      Decides (.timedOut detail) (.error (.timeout ("save_config timed out: " ++ detail)))
  | unreachable (detail : String) :
      Decides (.unreachable detail) (.error (.network ("HTTP request failed: " ++ detail)))
  | unreadable (detail : String) :
      Decides (.unreadable detail) (.error (.network ("Failed to read response: " ++ detail)))
  | serverFault {status : Nat} (body : String) (hstatus : 500 ≤ status ∧ status < 600) :
      Decides (.answer status body)
        (.error (.network s!"API request failed: {statusText status} - {body}"))
  | refused {status : Nat} (body : String) (hstatus : ¬ (200 ≤ status ∧ status < 300))
      (hfault : ¬ (500 ≤ status ∧ status < 600)) :
      Decides (.answer status body) (.error (.deploy s!"{statusText status} - {body}"))
  | undecoded {status : Nat} {body : String} {fault : Fault}
      (hstatus : 200 ≤ status ∧ status < 300)
      (hbody : Json.decode SaveResponse.ofDocument body = .error fault) :
      Decides (.answer status body) (.error (.json fault.message))
  | saved {status : Nat} {body : String} {response : SaveResponse}
      (hstatus : 200 ≤ status ∧ status < 300)
      (hbody : Json.decode SaveResponse.ofDocument body = .ok response)
      (hsuccess : response.status = "success") :
      Decides (.answer status body) (.ok response)
  | rejected {status : Nat} {body message : String} {response : SaveResponse}
      (hstatus : 200 ≤ status ∧ status < 300)
      (hbody : Json.decode SaveResponse.ofDocument body = .ok response)
      (hsuccess : response.status ≠ "success") (hmessage : response.message = some message)
      (hempty : message ≠ "") :
      Decides (.answer status body) (.error (.deploy message))
  | rejectedSilently {status : Nat} {body : String} {response : SaveResponse}
      (hstatus : 200 ≤ status ∧ status < 300)
      (hbody : Json.decode SaveResponse.ofDocument body = .ok response)
      (hsuccess : response.status ≠ "success")
      (hmessage : response.message = none ∨ response.message = some "") :
      Decides (.answer status body) (.error (.deploy "Config save failed"))

/-- Another attempt is made exactly behind what may pass. -/
theorem isSome_passing?_ofReply (reply : Reply) :
    (RetryPolicy.passing? (SaveResponse.ofReply reply)).isSome = reply.mayPass := by
  cases reply with
  | unreachable detail => rfl
  | timedOut detail => rfl
  | unreadable detail => rfl
  | answer status body =>
      rw [SaveResponse.ofReply, mayPass]
      cases isServerFault status with
      | true => rfl
      | false =>
          cases isSuccess status with
          | false => rfl
          | true =>
              -- A text that cannot be decoded is the same text the next time.
              cases Json.decode SaveResponse.ofDocument body <;> rfl

end Reply

end Net

/-! ### Answers -/

namespace SaveResponse

theorem ofReply_served {status : Nat} {body : String} (h : 200 ≤ status ∧ status < 300) :
    ofReply (.answer status body) =
      (Json.decode ofDocument body).mapError fun fault => .json fault.message := by
  have hfault : ¬ (500 ≤ status ∧ status < 600) := by omega
  rw [ofReply, if_neg (mt Net.isServerFault_iff.1 hfault), if_pos (Net.isSuccess_iff.2 h)]

variable {response : SaveResponse}

theorem verdict_of_success (h : response.status = "success") : response.verdict = .ok response :=
  if_pos (decide_eq_true h)

theorem verdict_of_failure (h : response.status ≠ "success") :
    response.verdict = .error response.rejection :=
  if_neg (by simpa [isSuccess] using h)

theorem rejection_of_message {message : String} (h : response.message = some message)
    (hempty : message ≠ "") : response.rejection = .deploy message := by
  rw [rejection, h, Option.filter_some, if_pos (decide_eq_true hempty)]
  rfl

theorem rejection_of_silence (h : response.message = none ∨ response.message = some "") :
    response.rejection = .deploy "Config save failed" := by
  rcases h with h | h <;> rw [rejection, h] <;> rfl

end SaveResponse

namespace Net.Reply

/-- What comes of an answer that is served depends on the text in it. -/
theorem decides_verdict {status : Nat} {body : String} {response : SaveResponse}
    (hstatus : 200 ≤ status ∧ status < 300)
    (hbody : Json.decode SaveResponse.ofDocument body = .ok response) :
    (answer status body).Decides response.verdict := by
  by_cases hsuccess : response.status = "success"
  · rw [SaveResponse.verdict_of_success hsuccess]
    exact .saved hstatus hbody hsuccess
  · rw [SaveResponse.verdict_of_failure hsuccess]
    cases hmessage : response.message with
    | none =>
        rw [SaveResponse.rejection_of_silence (Or.inl hmessage)]
        exact .rejectedSilently hstatus hbody hsuccess (Or.inl hmessage)
    | some message =>
        by_cases hempty : message = ""
        · subst hempty
          rw [SaveResponse.rejection_of_silence (Or.inr hmessage)]
          exact .rejectedSilently hstatus hbody hsuccess (Or.inr hmessage)
        · rw [SaveResponse.rejection_of_message hmessage hempty]
          exact .rejected hstatus hbody hsuccess hmessage hempty

theorem decides_bind (reply : Reply) :
    reply.Decides ((SaveResponse.ofReply reply).bind SaveResponse.verdict) := by
  cases reply with
  | unreachable detail => exact .unreachable detail
  | timedOut detail => exact .timedOut detail
  | unreadable detail => exact .unreadable detail
  | answer status body =>
      by_cases hfault : 500 ≤ status ∧ status < 600
      · rw [SaveResponse.ofReply, if_pos (isServerFault_iff.2 hfault)]
        exact .serverFault body hfault
      · by_cases hstatus : 200 ≤ status ∧ status < 300
        · rw [SaveResponse.ofReply_served hstatus]
          cases hbody : Json.decode SaveResponse.ofDocument body with
          | error fault => exact .undecoded hstatus hbody
          | ok response => exact decides_verdict hstatus hbody
        · rw [SaveResponse.ofReply, if_neg (mt isServerFault_iff.1 hfault),
            if_neg (mt isSuccess_iff.1 hstatus)]
          exact .refused body hstatus hfault

/-- A reply decides for one result, so the replies before it have no part in it. -/
theorem decides_iff {reply : Reply} {result : Except ChainError SaveResponse} :
    reply.Decides result ↔ (SaveResponse.ofReply reply).bind SaveResponse.verdict = result := by
  constructor
  · intro h
    cases h with
    | timedOut detail => rfl
    | unreachable detail => rfl
    | unreadable detail => rfl
    | serverFault body hstatus =>
        rw [SaveResponse.ofReply, if_pos (isServerFault_iff.2 hstatus)]
        rfl
    | refused body hstatus hfault =>
        rw [SaveResponse.ofReply, if_neg (mt isServerFault_iff.1 hfault),
          if_neg (mt isSuccess_iff.1 hstatus)]
        rfl
    | undecoded hstatus hbody =>
        rw [SaveResponse.ofReply_served hstatus, hbody]
        rfl
    | saved hstatus hbody hsuccess =>
        rw [SaveResponse.ofReply_served hstatus, hbody]
        exact SaveResponse.verdict_of_success hsuccess
    | rejected hstatus hbody hsuccess hmessage hempty =>
        rw [SaveResponse.ofReply_served hstatus, hbody,
          ← SaveResponse.rejection_of_message hmessage hempty]
        exact SaveResponse.verdict_of_failure hsuccess
    | rejectedSilently hstatus hbody hsuccess hmessage =>
        rw [SaveResponse.ofReply_served hstatus, hbody,
          ← SaveResponse.rejection_of_silence hmessage]
        exact SaveResponse.verdict_of_failure hsuccess
  · rintro rfl
    exact decides_bind reply

end Net.Reply

/-! ### Counting posts -/

/-- The first of some replies behind which there is no other attempt. -/
structure FirstSettled (replies : Nat → Net.Reply) (n : Nat) : Prop where
  settled : (replies n).mayPass = false
  earlier : ∀ m < n, (replies m).mayPass = true

/-- A request is posted so many times: until the first reply that settles it, if the attempts
suffice. -/
structure PostCount (attempts : Nat) (replies : Nat → Net.Reply) (count : Nat) : Prop where
  of_settled : ∀ n, FirstSettled replies n → count = min attempts (1 + n)
  of_unsettled : (∀ n, (replies n).mayPass = true) → count = attempts

theorem postCount_of_last {attempts last : Nat} {replies : Nat → Net.Reply}
    (hlast : last < attempts) (hearlier : ∀ n < last, (replies n).mayPass = true)
    (hstop : last + 1 < attempts → (replies last).mayPass = false) :
    PostCount attempts replies (last + 1) := by
  -- If the last reply may pass, there are no attempts left.
  have hused : (replies last).mayPass = true → attempts = last + 1 := by
    intro hpass
    have hle : attempts ≤ last + 1 := Nat.le_of_not_lt fun hlt => by
      rw [hstop hlt] at hpass
      cases hpass
    omega
  constructor
  · rintro n ⟨hsettled, hbefore⟩
    rcases Nat.lt_trichotomy n last with hlt | rfl | hgt
    · rw [hearlier n hlt] at hsettled
      cases hsettled
    · omega
    · have hattempts := hused (hbefore last hgt)
      omega
  · exact fun hpass => (hused (hpass last)).symm

/-! ### Saving -/

namespace DeployClient

/-- A config is posted as often as the attempts and the replies allow, each time in the same
request, and the last reply decides. Nothing is posted behind a reply that settles it, nor where
there is no address to post to. -/
theorem saveConfig_posts (client : DeployClient) (config : RuntimeConfig) (s : Surroundings) :
    let t := (client.saveConfig config).run s
    (∀ error, client.saveUrl = .error error → t.requests = [] ∧ t.result = .error error) ∧
      ∀ url, client.saveUrl = .ok url → ∃ last,
        PostCount (max 1 client.policy.maxAttempts) s.replies (last + 1) ∧
        t.requests = List.replicate (last + 1) ⟨url, requestBody config, client.patience⟩ ∧
        (s.replies last).Decides t.result ∧
        ∀ n, (s.replies n).mayPass = false → t.requests.length ≤ n + 1 := by
  intro t
  rcases client.postConfig_cases config true s with
    ⟨error, hurl, hrequests, -, hresult⟩ | ⟨url, last, hurl, hlast, hposted, hresult, hstop⟩
  · rw [hurl]
    refine ⟨?_, nofun⟩
    rintro _ ⟨⟩
    exact ⟨hrequests, hresult⟩
  · rw [hurl]
    refine ⟨nofun, ?_⟩
    rintro _ ⟨⟩
    have hearlier : ∀ n < last, (s.replies n).mayPass = true := fun n hn => by
      rw [← Net.Reply.isSome_passing?_ofReply, hposted.passing n hn]
    have hsettled : last + 1 < client.policy.attempts → (s.replies last).mayPass = false :=
      fun hlt => by rw [← Net.Reply.isSome_passing?_ofReply, hstop hlt, Option.isSome_none]
    rw [Nat.max_comm]
    refine ⟨last, postCount_of_last hlast hearlier hsettled, hposted.requests_eq,
      Net.Reply.decides_iff.2 hresult.symm, fun n hn => ?_⟩
    have hlength : t.requests.length = last + 1 :=
      (congrArg List.length hposted.requests_eq).trans List.length_replicate
    have hle : last ≤ n := Nat.le_of_not_lt fun hlt => by
      rw [hearlier n hlt] at hn
      cases hn
    omega

end DeployClient

/-- A manager that is late, then busy, and then refuses every config. -/
def Surroundings.reluctant : Surroundings where
  directory := ⟨[]⟩
  replies
    | 0 => .timedOut "no answer"
    | 1 => .answer 503 "busy"
    | _ => .answer 200 "\x7b\"status\":\"error\",\"message\":\"\"\x7d"
  numbers _ := 0

namespace DeployClient

/-- Five attempts are allowed and three are made. -/
theorem saveConfig_posts_reluctant : ∃ client url,
    withPolicy {} { maxAttempts := 5 } = .ok client ∧ client.saveUrl = .ok url ∧
      let t := (client.saveConfig .initial).run .reluctant
      t.requests = List.replicate 3 ⟨url, requestBody .initial, client.patience⟩ ∧
        t.result = .error (.deploy "Config save failed") := by
  have hopened : (withPolicy {} { maxAttempts := 5 }).toOption.any (fun client =>
      decide (client.policy.maxAttempts = 5) && client.saveUrl.toOption.isSome) = true := by
    decide +kernel
  cases hclient : withPolicy {} { maxAttempts := 5 } with
  | error error => rw [hclient] at hopened; cases hopened
  | ok client =>
      rw [hclient] at hopened
      obtain ⟨hattempts, hopened⟩ := Bool.and_eq_true_iff.1 hopened
      cases hurl : client.saveUrl with
      | error error => rw [hurl] at hopened; cases hopened
      | ok url =>
          refine ⟨client, url, rfl, hurl, ?_⟩
          obtain ⟨last, hcount, hrequests, hdecides, -⟩ :=
            (saveConfig_posts client .initial .reluctant).2 url hurl
          have hsettled : FirstSettled Surroundings.reluctant.replies 2 := ⟨rfl, by decide⟩
          have hthree := hcount.of_settled 2 hsettled
          rw [of_decide_eq_true hattempts] at hthree
          obtain rfl : last = 2 := by omega
          have hrejected : (Surroundings.reluctant.replies 2).Decides
              (.error (.deploy "Config save failed")) :=
            have hbody : Json.decode SaveResponse.ofDocument
                "\x7b\"status\":\"error\",\"message\":\"\"\x7d" =
              .ok { status := "error", message := some "" } := rfl
            .rejectedSilently (by decide) hbody (by decide) (Or.inr rfl)
          refine ⟨hrequests, ?_⟩
          rw [← Net.Reply.decides_iff.1 hdecides]
          exact Net.Reply.decides_iff.1 hrejected

end DeployClient

end ProxyChain
