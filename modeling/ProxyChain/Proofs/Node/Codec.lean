import ProxyChain.Node.Codec
import ProxyChain.Proofs.Document

/-!
# ProxyChain.Proofs.Node.Codec

Definitions, TLS options and transport options that were read are written such that they are read
back as they are, attributes that are not interpreted included. What is read is sound (`Sound`):
its other attributes are none of the declared ones, are different, and are kept in a form in which
reading them again changes nothing; and whatever is sound is read back.
-/

namespace ProxyChain

open Json Document Fields

variable {α : Type}

/-! ### Optional fields -/

namespace Json

@[simp] theorem lookup_optionalField (name : String) (encode : α → Value) (value : Option α)
    (other : String) : (optionalField name encode value).lookup other =
      if other = name then value.map encode else none := by
  cases value with
  | none => exact (ite_self none).symm
  | some a => exact lookup_cons_eq_ite other name (encode a) []

theorem written_optionalField {name : String} {encode : α → Value} {value : Option α} :
    Written [name] (optionalField name encode value) := by
  cases value with
  | none => exact List.nil_sublist [name]
  | some a => exact List.Sublist.refl [name]

/-- An optional field is read back if what it holds is, and is never written as nothing. -/
theorem elim_optional_eq_ok {read : Document → Except Fault α} {write : α → Value}
    {value : Option α} (hread : ∀ a ∈ value, read (ofValue (write a)) = .ok a)
    (hnull : ∀ a, write a ≠ .null) :
    value.elim (.ok none) ((fun v => Document.optional read (ofValue v)) ∘ write) = .ok value := by
  cases value with
  | none => rfl
  | some a =>
      show Document.optional read (ofValue (write a)) = .ok (some a)
      rw [optional_ofValue (hnull a), hread a rfl]
      rfl

@[simp] theorem port_ofPort (port : UInt16) :
    Document.port (ofValue (.ofPort port)) = .ok port := by
  show (natural 65536 (ofValue (.ofPort port)) >>= fun n => pure n.toUInt16) = .ok port
  have hread : natural 65536 (ofValue (.ofPort port)) = .ok port.toNat := if_pos port.toNat_lt
  rw [hread, ok_bind, Nat.toUInt16, UInt16.ofNat_toNat]
  rfl

@[simp] theorem kind_ofName (kind : NodeKind) :
    NodeKind.ofDocument (ofValue (.string kind.name)) = .ok kind := by
  rw [NodeKind.ofDocument, variant_ofValue, ok_bind, NodeKind.ofName?_name]

@[simp] theorem texts_ofTexts (texts : List String) :
    listOf text (ofValue (.ofTexts texts)) = .ok texts :=
  listOf_ofValue_map fun s _ => text_ofValue s

@[simp] theorem elim_optional_text (value : Option String) : value.elim (.ok none)
    ((fun v => Document.optional text (ofValue v)) ∘ Value.string) = .ok value :=
  elim_optional_eq_ok (fun s _ => text_ofValue s) nofun

@[simp] theorem elim_optional_flag (value : Option Bool) : value.elim (.ok none)
    ((fun v => Document.optional flag (ofValue v)) ∘ Value.bool) = .ok value :=
  elim_optional_eq_ok (fun b _ => flag_ofValue b) nofun

@[simp] theorem elim_optional_port (value : Option UInt16) : value.elim (.ok none)
    ((fun v => Document.optional Document.port (ofValue v)) ∘ Value.ofPort) = .ok value :=
  elim_optional_eq_ok (fun port _ => port_ofPort port) nofun

/-- The list, if there is anything in it. -/
def nonEmpty? (xs : List α) : Option (List α) :=
  if xs.isEmpty then none else some xs

/-- A list that is written only when it is not empty is read back if it is when it is written. -/
theorem elim_nonEmpty?_eq_ok {read : Document → Except Fault (List α)} {write : List α → Value}
    {xs : List α} (hread : read (ofValue (write xs)) = .ok xs) :
    (nonEmpty? xs).elim (.ok []) ((fun v => read (ofValue v)) ∘ write) = .ok xs := by
  cases xs with
  | nil => rfl
  | cons x rest => exact hread

end Json

/-! ### TLS options -/

namespace TlsOptions

/-- The declared fields of TLS options. -/
def fieldNames : List String := ["enabled", "server_name", "insecure"]

/-- Options whose other attributes are as they are kept. -/
def Sound (tls : TlsOptions) : Prop :=
  ExtraSound fieldNames tls.extra

theorem ofDocument_toValue {tls : TlsOptions} (h : tls.Sound) :
    ofDocument (ofValue tls.toValue) = .ok tls := by
  rw [Sound, fieldNames] at h
  rw [ofDocument, toValue, ofOpenRecord_written (by decide) ?_ h]
  · simp [lookup_cons_eq_ite, List.lookup_append,
      h.extra_ofNamed]
  · exact .always <| .group written_optionalField written_optionalField

theorem of_ofDocument {v : Value} {tls : TlsOptions} (h : ofDocument (ofValue v) = .ok tls) :
    tls.Sound ∧ ∀ name ∉ fieldNames, tls.extra.lookup name = v.attribute? name := by
  simp only [ofDocument, bind_eq_ok_iff] at h
  obtain ⟨fields, hfields, _, -, _, -, _, -, extra, hextra, h⟩ := h
  obtain rfl := Except.ok.inj h
  exact extra_of_ofOpenRecord hfields hextra

end TlsOptions

/-! ### Transport options -/

namespace TransportOptions

/-- The declared fields of transport options. -/
def fieldNames : List String := ["type", "path", "headers"]

/-- Options in which no header occurs twice and whose other attributes are as they are kept. -/
structure Sound (transport : TransportOptions) : Prop where
  headers : (transport.headers.map Prod.fst).Nodup
  extra : ExtraSound fieldNames transport.extra

/-- Headers as an object. -/
def headersValue (headers : List (String × String)) : Value :=
  .object (headers.map (Prod.map id .string))

theorem headersField_eq (headers : List (String × String)) :
    headersField headers = optionalField "headers" headersValue (nonEmpty? headers) := by
  rw [headersField, nonEmpty?]
  split <;> rfl

theorem ofDocument_toValue {transport : TransportOptions} (h : transport.Sound) :
    ofDocument (ofValue transport.toValue) = .ok transport := by
  obtain ⟨hheaders, hextra⟩ := h
  have hread : mapOf text (ofValue (headersValue transport.headers)) = .ok transport.headers :=
    mapOf_ofValue_map hheaders text_ofValue
  rw [fieldNames] at hextra
  rw [ofDocument, toValue, headersField_eq, ofOpenRecord_written (by decide) ?_ hextra]
  · simp [lookup_cons_eq_ite, List.lookup_append,
      elim_nonEmpty?_eq_ok hread, hextra.extra_ofNamed]
  · exact .always <| .group written_optionalField written_optionalField

theorem of_ofDocument {v : Value} {transport : TransportOptions}
    (h : ofDocument (ofValue v) = .ok transport) :
    transport.Sound ∧ ∀ name ∉ fieldNames, transport.extra.lookup name = v.attribute? name := by
  simp only [ofDocument, bind_eq_ok_iff] at h
  obtain ⟨fields, hfields, _, -, _, -, headers, hheaders, extra, hextra, h⟩ := h
  obtain rfl := Except.ok.inj h
  obtain ⟨hsound, hkept⟩ := extra_of_ofOpenRecord hfields hextra
  refine ⟨⟨?_, hsound⟩, hkept⟩
  rcases of_withDefault hheaders with rfl | ⟨d, hread⟩
  · exact List.nodup_nil
  · exact nodup_of_mapOf hread

end TransportOptions

/-! ### Definitions -/

namespace NodeDefinition

/-- Definitions whose options are sound and whose other attributes are as they are kept. -/
structure Sound (definition : NodeDefinition) : Prop where
  tls : ∀ tls ∈ definition.tls, tls.Sound
  transport : ∀ transport ∈ definition.transport, transport.Sound
  extra : ExtraSound fieldNames definition.extra

theorem ofDocument_toValue {definition : NodeDefinition} (h : definition.Sound) :
    ofDocument (ofValue definition.toValue) = .ok definition := by
  obtain ⟨htls, htransport, hextra⟩ := h
  have htls := elim_optional_eq_ok (fun tls h => TlsOptions.ofDocument_toValue (htls tls h)) nofun
  have htransport := elim_optional_eq_ok
    (fun transport h => TransportOptions.ofDocument_toValue (htransport transport h)) nofun
  rw [ofDocument, toValue, ofOpenRecord_written (by decide) ?_ hextra]
  · simp [lookup_cons_eq_ite, List.lookup_append, htls, htransport,
      hextra.extra_ofNamed]
  · -- Groups are matched with the names from the front.
    simp only [List.cons_append, List.append_assoc]
    exact .always <| .always <| .always <| .group written_optionalField <|
      .group written_optionalField <| .group written_optionalField <|
      .group written_optionalField <| .group written_optionalField <|
      .group written_optionalField written_optionalField

theorem of_ofDocument {v : Value} {definition : NodeDefinition}
    (h : ofDocument (ofValue v) = .ok definition) :
    ∃ f, ofOpenRecord fieldNames (ofValue v) = .ok f ∧
      f.optional "tls" TlsOptions.ofDocument = .ok definition.tls ∧
      f.optional "transport" TransportOptions.ofDocument = .ok definition.transport ∧
      f.extra = .ok definition.extra := by
  simp only [ofDocument, bind_eq_ok_iff] at h
  obtain ⟨f, hf, _, -, _, -, _, -, _, -, _, -, _, -, _, -, _, -, tls, htls, transport, htransport,
    extra, hextra, h⟩ := h
  obtain rfl := Except.ok.inj h
  exact ⟨f, hf, htls, htransport, hextra⟩

/-- What is read as a definition is sound. -/
theorem sound_of_ofDocument {v : Value} {definition : NodeDefinition}
    (h : ofDocument (ofValue v) = .ok definition) : definition.Sound := by
  obtain ⟨f, hf, htls, htransport, hextra⟩ := of_ofDocument h
  have hsound := (extra_of_ofOpenRecord hf hextra).1
  obtain ⟨_, rfl, -, rfl⟩ := ofOpenRecord_eq_ok_iff.1 hf
  refine ⟨fun tls h => ?_, fun transport h => ?_, hsound⟩
  · obtain ⟨w, hread⟩ := exists_of_mem_optional htls h
    exact (TlsOptions.of_ofDocument hread).1
  · obtain ⟨w, hread⟩ := exists_of_mem_optional htransport h
    exact (TransportOptions.of_ofDocument hread).1

/-- Whether two definitions, as values, have the same attributes that are not interpreted: their
own, and those of their TLS and of their transport options. -/
structure SameAttributes (v w : Value) : Prop where
  own : ∀ name ∉ fieldNames, w.attribute? name = v.attribute? name
  tls : ∀ name ∉ TlsOptions.fieldNames,
    (w.field? "tls").bind (Value.attribute? name) = (v.field? "tls").bind (Value.attribute? name)
  transport : ∀ name ∉ TransportOptions.fieldNames,
    (w.field? "transport").bind (Value.attribute? name) =
      (v.field? "transport").bind (Value.attribute? name)

/-- The attributes of a value that are not interpreted are those of the definition that is read. -/
theorem attributes_of_ofDocument {v : Value} {definition : NodeDefinition}
    (h : ofDocument (ofValue v) = .ok definition) :
    (∀ name ∉ fieldNames, v.attribute? name = definition.extra.lookup name) ∧
      (∀ name ∉ TlsOptions.fieldNames, (v.field? "tls").bind (Value.attribute? name) =
        definition.tls.bind fun tls => tls.extra.lookup name) ∧
      ∀ name ∉ TransportOptions.fieldNames,
        (v.field? "transport").bind (Value.attribute? name) =
          definition.transport.bind fun transport => transport.extra.lookup name := by
  obtain ⟨f, hf, htls, htransport, hextra⟩ := of_ofDocument h
  have hown := (extra_of_ofOpenRecord hf hextra).2
  obtain ⟨fields, rfl, -, rfl⟩ := ofOpenRecord_eq_ok_iff.1 hf
  have hlookup (name : String) (hname : name ∈ fieldNames) :
      Value.field? name (.object fields) = (fieldsAmong fieldNames fields).lookup name :=
    (lookup_fieldsAmong hname fields).symm
  refine ⟨fun name hname => (hown name hname).symm, fun name hname => ?_, fun name hname => ?_⟩
  · rw [hlookup "tls" (by decide)]
    exact bind_lookup_of_optional htls rfl fun w tls hread =>
      (TlsOptions.of_ofDocument hread).2 name hname
  · rw [hlookup "transport" (by decide)]
    exact bind_lookup_of_optional htransport rfl fun w transport hread =>
      (TransportOptions.of_ofDocument hread).2 name hname

/-- Values that are read as the same definition have the same attributes. -/
theorem sameAttributes_of_ofDocument {v w : Value} {definition : NodeDefinition}
    (hv : ofDocument (ofValue v) = .ok definition) (hw : ofDocument (ofValue w) = .ok definition) :
    SameAttributes v w := by
  -- Both are compared with the definition; nothing is said on how either value was made.
  obtain ⟨hown, htls, htransport⟩ := attributes_of_ofDocument hv
  obtain ⟨hown', htls', htransport'⟩ := attributes_of_ofDocument hw
  refine ⟨fun name hname => ?_, fun name hname => ?_, fun name hname => ?_⟩
  · rw [hown name hname, hown' name hname]
  · rw [htls name hname, htls' name hname]
  · rw [htransport name hname, htransport' name hname]

end NodeDefinition

end ProxyChain
