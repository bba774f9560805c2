import ProxyChain.Config.Codec
import ProxyChain.Proofs.Topology.Codec

/-!
# ProxyChain.Proofs.Config.Codec

A runtime config that was read is written such that it is read back as it is. Fields that are
omitted because nothing is in them come back with nothing in them; of the outbounds it counts that
their TLS and transport options were read.

With what holds of profiles this is the theorem on both formats: neither loses anything.
-/

namespace ProxyChain

open Json Document Fields

theorem Json.textsField_eq (name : String) (texts : List String) :
    textsField name texts = optionalField name .ofTexts (nonEmpty? texts) := by
  rw [textsField, nonEmpty?]
  split <;> rfl

@[simp] theorem Json.elim_nonEmpty?_texts (texts : List String) :
    (nonEmpty? texts).elim (.ok []) ((fun v => listOf text (ofValue v)) ∘ Value.ofTexts) =
      .ok texts :=
  elim_nonEmpty?_eq_ok (texts_ofTexts texts)

/-! ### Log and inbounds -/

theorem LogConfig.ofDocument_toValue (log : LogConfig) :
    ofDocument (ofValue log.toValue) = .ok log := by
  rw [ofDocument, toValue, ofRecord_written (by decide) ?_]
  · simp [lookup_cons_eq_ite]
  · exact .always <| .always .nil

theorem InboundConfig.ofDocument_toValue (inbound : InboundConfig) :
    ofDocument (ofValue inbound.toValue) = .ok inbound := by
  rw [ofDocument, toValue, ofRecord_written (by decide) ?_]
  · simp [lookup_cons_eq_ite, List.lookup_append]
  · simp only [List.cons_append, List.append_assoc]
    exact .always <| .always <| .group written_optionalField <|
      .group written_optionalField written_optionalField

/-! ### Outbounds -/

namespace Outbound

/-- Outbounds whose options are sound. -/
structure Sound (outbound : Outbound) : Prop where
  tls : ∀ tls ∈ outbound.tls, tls.Sound
  transport : ∀ transport ∈ outbound.transport, transport.Sound

theorem ofDocument_toValue {outbound : Outbound} (h : outbound.Sound) :
    ofDocument (ofValue outbound.toValue) = .ok outbound := by
  have htls := elim_optional_eq_ok
    (fun tls ht => TlsOptions.ofDocument_toValue (h.tls tls ht)) nofun
  have htransport := elim_optional_eq_ok
    (fun transport ht => TransportOptions.ofDocument_toValue (h.transport transport ht)) nofun
  rw [ofDocument, toValue, textsField_eq, ofRecord_written (by decide) ?_]
  · simp [lookup_cons_eq_ite, List.lookup_append, htls, htransport]
  · simp only [List.cons_append, List.append_assoc]
    exact .always <| .always <| .group written_optionalField <|
      .group written_optionalField <| .group written_optionalField <|
      .group written_optionalField <| .group written_optionalField <|
      .group written_optionalField <| .group written_optionalField <|
      .group written_optionalField <| .group written_optionalField <|
      .group written_optionalField written_optionalField

theorem sound_of_ofDocument {v : Value} {outbound : Outbound}
    (h : ofDocument (ofValue v) = .ok outbound) : outbound.Sound := by
  simp only [ofDocument, bind_eq_ok_iff] at h
  obtain ⟨⟨_, rest⟩, hfields, _, -, _, -, _, -, _, -, _, -, _, -, _, -, tls, htls, transport,
    htransport, _, -, _, -, _, -, _, -, h⟩ := h
  obtain rfl := Except.ok.inj h
  obtain ⟨fields, rfl, -⟩ := of_ofRecord hfields
  refine ⟨fun tls h => ?_, fun transport h => ?_⟩
  · obtain ⟨w, hread⟩ := exists_of_mem_optional htls h
    exact (TlsOptions.of_ofDocument hread).1
  · obtain ⟨w, hread⟩ := exists_of_mem_optional htransport h
    exact (TransportOptions.of_ofDocument hread).1

end Outbound

/-! ### Rules -/

theorem RouteRule.ofDocument_toValue (rule : RouteRule) :
    ofDocument (ofValue rule.toValue) = .ok rule := by
  rw [ofDocument, toValue, textsField_eq, ofRecord_written (by decide) ?_]
  · simp [List.lookup_append]
  · simp only [List.append_assoc]
    exact .group written_optionalField <| .group written_optionalField <|
      .group written_optionalField written_optionalField

theorem RouteRule.listOfDocument_toValue (rules : List RouteRule) :
    listOfDocument (ofValue (.object [("rules", .array (rules.map toValue))])) = .ok rules := by
  have hrules := listOf_ofValue_map fun rule (_ : rule ∈ rules) => rule.ofDocument_toValue
  rw [listOfDocument, ofRecord_written (by decide) (.always .nil)]
  simp [hrules]

/-! ### Configs -/

namespace RuntimeConfig

/-- A config whose outbounds are sound is read back. -/
theorem ofDocument_toValue {config : RuntimeConfig} (h : ∀ outbound ∈ config.outbounds,
    outbound.Sound) : ofDocument (ofValue config.toValue) = .ok config := by
  have hinbounds := listOf_ofValue_map
    fun inbound (_ : inbound ∈ config.inbounds) => inbound.ofDocument_toValue
  have houtbounds := listOf_ofValue_map fun outbound ho =>
    Outbound.ofDocument_toValue (h outbound ho)
  rw [ofDocument, toValue, ofRecord_written (by decide) ?_]
  · simp [lookup_cons_eq_ite, config.log.ofDocument_toValue, hinbounds, houtbounds,
      RouteRule.listOfDocument_toValue config.rules]
  · exact .always <| .always <| .always <| .always .nil

theorem sound_of_ofDocument {v : Value} {config : RuntimeConfig}
    (h : ofDocument (ofValue v) = .ok config) : ∀ outbound ∈ config.outbounds, outbound.Sound := by
  simp only [ofDocument, bind_eq_ok_iff] at h
  obtain ⟨⟨_, rest⟩, hfields, _, -, _, -, outbounds, houtbounds, _, -, h⟩ := h
  obtain rfl := Except.ok.inj h
  obtain ⟨fields, rfl, -⟩ := of_ofRecord hfields
  exact forall_of_forall₂ (fun _ _ => Outbound.sound_of_ofDocument)
    (forall₂_of_withDefault houtbounds)

end RuntimeConfig

/-! ### Both formats -/

/-- Whatever is read as a profile is written such that it is read back, and its definitions keep all
attributes that are not interpreted; whatever is read as a config is written such that it is read
back. -/
theorem formats_lossless :
    (∀ (v : Value) (t : Topology), Topology.ofDocument (ofValue v) = .ok t →
      Topology.ofDocument (ofValue t.toValue) = .ok t ∧
        List.Forall₂ NodeDefinition.SameAttributes (Topology.definitionsIn v)
          (Topology.definitionsIn t.toValue)) ∧
    ∀ (v : Value) (config : RuntimeConfig), RuntimeConfig.ofDocument (ofValue v) = .ok config →
      RuntimeConfig.ofDocument (ofValue config.toValue) = .ok config := by
  constructor
  · intro v t h
    have hback := Topology.ofDocument_toValue (Topology.sound_of_ofDocument h)
    exact ⟨hback, Topology.sameAttributes_of_ofDocument h hback⟩
  · intro v config h
    exact RuntimeConfig.ofDocument_toValue (RuntimeConfig.sound_of_ofDocument h)

/-- A profile with one definition, which has attributes of its own at every level; one of them is
written twice. -/
def annotatedProfile : Value :=
  .object [("nodeLibrary", .array [.object [("flow", .null), ("tag", .string "proxy"),
    ("type", .string "vless"), ("port", .number (.int 443)), ("server", .null),
    ("tls", .object [("alpn", .array [.string "h2"]), ("enabled", .bool true)]),
    ("transport", .object [("type", .string "ws"), ("early_data", .number (.int 2048))]),
    ("flow", .string "vision")]])]

/-- What is read from it. -/
def Topology.annotated : Topology where
  library := [{
    tag := "proxy"
    kind := .vless
    port := some 443
    tls := some { enabled := true, extra := [("alpn", .array [.string "h2"])] }
    transport := some { kind := "ws", extra := [("early_data", .number (.int 2048))] }
    extra := [("flow", .string "vision")] }]

/-- A config that leaves out what is empty and says what is a default. -/
def sparseConfig : Value :=
  .object [("outbounds", .array [.object [("tag", .string "proxy"), ("type", .string "vless"),
    ("outbounds", .array []), ("tls", .object [("enabled", .bool false)])]])]

/-- What is read from it. -/
def RuntimeConfig.sparse : RuntimeConfig where
  outbounds := [{ kind := "vless", tag := "proxy", tls := some {} }]

theorem annotatedProfile_kept :
    (Topology.ofDocument (ofValue annotatedProfile) = .ok Topology.annotated ∧
      Topology.ofDocument (ofValue Topology.annotated.toValue) = .ok Topology.annotated ∧
      List.Forall₂ NodeDefinition.SameAttributes (Topology.definitionsIn annotatedProfile)
        (Topology.definitionsIn Topology.annotated.toValue)) ∧
    RuntimeConfig.ofDocument (ofValue sparseConfig) = .ok RuntimeConfig.sparse ∧
      RuntimeConfig.ofDocument (ofValue RuntimeConfig.sparse.toValue) = .ok RuntimeConfig.sparse :=
  ⟨⟨rfl, formats_lossless.1 annotatedProfile .annotated rfl⟩,
    ⟨rfl, formats_lossless.2 sparseConfig .sparse rfl⟩⟩

end ProxyChain
