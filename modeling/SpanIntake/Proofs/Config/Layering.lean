/-
**Layers of settings.**

Settings come from defaults, over which the configuration file and then the environment are laid.
Both may set any of the same fields: the file under the field's name, the environment under the name
in capitals behind that of the program.  Each value has to be valid where it stands, also when
another one is laid over it; and if all are, every field has the value that is laid over the others,
whatever the other fields are.

Main definitions:

* `Field`, `FieldKind` — the fields of the settings, and the kinds of values that they have;
* `Field.key`, `Field.variableName` — what a field is called in the file and in the environment;
* `FieldKind.ofText?`, `FieldKind.ofToml?` — the value that a text or a TOML value stands for;
* `Sayings` — what is said about each field: nothing, something invalid, or a value;
* `Environment.sayings`, `Toml.sayings` — what the environment and a document say;
* `FileContent.entries?` — the document of a file.

Main results:

* `Settings.apply_eq_ok_iff` — a layer laid over settings;
* `Layer.sayings_ofEnvironment`, `Layer.sayings_ofTable?` — a layer says what it was made of;
* `Settings.load_eq_ok_iff` — **the settings that are loaded, field by field**;
* `Settings.load_layering` — **when they are loaded, and what they are**.
-/

import SpanIntake.Config.Source
import SpanIntake.Proofs.Checks.Row

set_option relaxedAutoImplicit false
set_option autoImplicit false

namespace SpanIntake

/-! ### Fields -/

/-- The kinds of values that fields have. -/
inductive FieldKind where
  /-- A text. -/
  | text
  /-- A text that may be missing from the settings. -/
  | place
  /-- A truth value. -/
  | flag
  /-- A positive number. -/
  | size
  /-- A length of time. -/
  | period
  /-- A list of headers. -/
  | headers

/-- The values of a kind. -/
@[reducible] def FieldKind.Value : FieldKind → Type
  | text => String
  | place => Option String
  | flag => Bool
  | size => Nat
  | period => Period
  | headers => List (String × String)

/-- The fields of the settings. -/
inductive Field where
  | httpAddress
  | grpcAddress
  | httpEnabled
  | grpcEnabled
  | maxRequestBytes
  | consumerTimeout
  | exporter
  | forwardEndpoint
  | forwardProtocol
  | forwardCompression
  | forwardHeaders
  | forwardTimeout

/-- The kind of a field's values. -/
@[reducible] def Field.kind : Field → FieldKind
  | httpAddress | grpcAddress | exporter | forwardProtocol | forwardCompression => .text
  | forwardEndpoint => .place
  | httpEnabled | grpcEnabled => .flag
  | maxRequestBytes => .size
  | consumerTimeout | forwardTimeout => .period
  | forwardHeaders => .headers

/-- The name of a field in the configuration file. -/
def Field.key : Field → String
  | httpAddress => "collector_http_addr"
  | grpcAddress => "collector_grpc_addr"
  | httpEnabled => "http_enabled"
  | grpcEnabled => "grpc_enabled"
  | maxRequestBytes => "max_request_bytes"
  | consumerTimeout => "consumer_timeout"
  | exporter => "exporter"
  | forwardEndpoint => "forward_otlp_endpoint"
  | forwardProtocol => "forward_otlp_protocol"
  | forwardCompression => "forward_otlp_compression"
  | forwardHeaders => "forward_otlp_headers"
  | forwardTimeout => "forward_otlp_timeout"

/-- The variable of a field: its name in capitals, behind that of the program. -/
def Field.variableName (f : Field) : String :=
  "JTRACE_" ++ String.ofList (f.key.toList.map Char.toUpper)

example : Field.variableName .forwardTimeout = "JTRACE_FORWARD_OTLP_TIMEOUT" := by decide

/-- The value of a field. -/
def Settings.value (s : Settings) : (f : Field) → f.kind.Value
  | .httpAddress => s.httpAddress
  | .grpcAddress => s.grpcAddress
  | .httpEnabled => s.httpEnabled
  | .grpcEnabled => s.grpcEnabled
  | .maxRequestBytes => s.maxRequestBytes
  | .consumerTimeout => s.consumerTimeout
  | .exporter => s.exporter
  | .forwardEndpoint => s.forwardEndpoint
  | .forwardProtocol => s.forwardProtocol
  | .forwardCompression => s.forwardCompression
  | .forwardHeaders => s.forwardHeaders
  | .forwardTimeout => s.forwardTimeout

theorem Settings.ext_value {s t : Settings} (h : ∀ f, s.value f = t.value f) : s = t := by
  cases s
  cases t
  congr
  · exact h .httpAddress
  · exact h .grpcAddress
  · exact h .httpEnabled
  · exact h .grpcEnabled
  · exact h .maxRequestBytes
  · exact h .consumerTimeout
  · exact h .exporter
  · exact h .forwardEndpoint
  · exact h .forwardProtocol
  · exact h .forwardCompression
  · exact h .forwardHeaders
  · exact h .forwardTimeout

/-- Fields do not depend on each other: there are settings with any values. -/
theorem Settings.exists_value (v : (f : Field) → f.kind.Value) : ∃ s : Settings, s.value = v := by
  refine ⟨⟨v .httpAddress, v .grpcAddress, v .httpEnabled, v .grpcEnabled, v .maxRequestBytes,
    v .consumerTimeout, v .exporter, v .forwardEndpoint, v .forwardProtocol, v .forwardCompression,
    v .forwardHeaders, v .forwardTimeout⟩, ?_⟩
  funext f
  cases f <;> rfl

/-! ### Valid values -/

/-- A number, if it is positive. -/
def positive? (n : Nat) : Option Nat := if n = 0 then none else some n

/-- The value that a text stands for. -/
def FieldKind.ofText? (s : String) : (k : FieldKind) → Option k.Value
  | text => some s
  | place => some (some s)
  | flag => (readBoolean s).toOption
  | size => (readNumber s).toOption.bind positive?
  | period => (Period.parse s).toOption
  | headers => (HeaderList.parse s).toOption

/-- The value that a TOML value stands for: truth values and numbers are written as such, all other
values as texts. -/
def FieldKind.ofToml? (v : Toml.Value) : (k : FieldKind) → Option k.Value
  | flag => booleanValue? v
  | size => (numberValue? v).bind positive?
  | k => (textValue? v).bind k.ofText?

/-- What is said about each field: nothing, something that is no value of the field, or a value. -/
abbrev Sayings := (f : Field) → Option (Option f.kind.Value)

/-- All that is said is valid. -/
def Sayings.Valid (r : Sayings) : Prop := ∀ f, r f ≠ some none

/-- The value that is said of a field. -/
def Sayings.value? (r : Sayings) (f : Field) : Option f.kind.Value := (r f).join

/-- What the environment says. -/
def Environment.sayings (env : Environment) : Sayings := fun f =>
  (env f.variableName).map fun s => f.kind.ofText? s

/-- What a document says. -/
def Toml.sayings (entries : List (String × Toml.Value)) : Sayings := fun f =>
  (Toml.lookup? f.key entries).map fun v => f.kind.ofToml? v

/-- What a layer says. -/
def Layer.sayings (l : Layer) : Sayings
  | .httpAddress => l.httpAddress.map fun s => FieldKind.text.ofText? s
  | .grpcAddress => l.grpcAddress.map fun s => FieldKind.text.ofText? s
  | .httpEnabled => l.httpEnabled.map some
  | .grpcEnabled => l.grpcEnabled.map some
  | .maxRequestBytes => l.maxRequestBytes.map positive?
  | .consumerTimeout => l.consumerTimeout.map fun s => FieldKind.period.ofText? s
  | .exporter => l.exporter.map fun s => FieldKind.text.ofText? s
  | .forwardEndpoint => l.forwardEndpoint.map fun s => FieldKind.place.ofText? s
  | .forwardProtocol => l.forwardProtocol.map fun s => FieldKind.text.ofText? s
  | .forwardCompression => l.forwardCompression.map fun s => FieldKind.text.ofText? s
  | .forwardHeaders => l.forwardHeaders.map fun s => FieldKind.headers.ofText? s
  | .forwardTimeout => l.forwardTimeout.map fun s => FieldKind.period.ofText? s

/-! ### Readings -/

section Readings

variable {α β γ : Type} {r : Option α} {g : α → Option β} {x : Option β}

/-- A reading succeeds if there is nothing to be read, or something that can be. -/
theorem exists_map_some_of_ne (k : β → Option γ)
    (h : r.map (fun a => (g a).bind k) ≠ some none) : ∃ x : Option β, r.map g = x.map some := by
  cases r with
  | none => exact ⟨none, rfl⟩
  | some a =>
      cases hg : g a with
      | none => simp [hg] at h
      | some b => exact ⟨some b, by simp [hg]⟩

/-- What is read of what was read. -/
theorem map_bind_of_map_eq (h : r.map g = x.map some) (k : β → Option γ) :
    r.map (fun a => (g a).bind k) = x.map k := by
  cases r with
  | none =>
      cases x with
      | none => rfl
      | some b => cases h
  | some a =>
      cases x with
      | none => cases h
      | some b =>
          have hg : g a = some b := Option.some.inj h
          simp [hg]

theorem ne_some_none_of_eq {s : Option (Option β)} (h : s = x.map some) : s ≠ some none := by
  subst h
  cases x <;> simp

theorem eq_map_some_of_ne {s : Option (Option β)} (h : s ≠ some none) :
    s = s.join.map some := by
  match s with
  | none => rfl
  | some none => exact absurd rfl h
  | some (some b) => rfl

theorem eq_map_some_iff {s : Option (Option β)} :
    s = x.map some ↔ s ≠ some none ∧ x = s.join := by
  constructor
  · rintro rfl
    exact ⟨ne_some_none_of_eq rfl, by cases x <;> rfl⟩
  · rintro ⟨h, rfl⟩
    exact eq_map_some_of_ne h

end Readings

/-! ### Laying a layer -/

theorem requestBytes_eq_ok_iff {l : Layer} {source : LayerSource} {x : Option Nat} :
    l.requestBytes source = .ok x ↔ l.sayings .maxRequestBytes = x.map some := by
  rw [Layer.requestBytes, Layer.sayings]
  cases l.maxRequestBytes with
  | none => cases x <;> simp
  | some n =>
      by_cases hn : n = 0
      · cases x <;> simp [positive?, hn]
      · cases x <;> simp [positive?, hn]

theorem timeoutOf_eq_ok_iff {field : TimeoutField} {source : LayerSource} {v : Option String}
    {x : Option Period} :
    timeoutOf field source v = .ok x ↔
      v.map (fun s => FieldKind.period.ofText? s) = x.map some := by
  cases v with
  | none => cases x <;> simp [timeoutOf]
  | some s => cases hp : Period.parse s <;> cases x <;>
      simp [timeoutOf, FieldKind.ofText?, hp, Except.toOption]

theorem headersOf_eq_ok_iff {source : LayerSource} {v : Option String}
    {x : Option (List (String × String))} :
    headersOf source v = .ok x ↔ v.map (fun s => FieldKind.headers.ofText? s) = x.map some := by
  cases v with
  | none => cases x <;> simp [headersOf]
  | some s => cases hp : HeaderList.parse s <;> cases x <;>
      simp [headersOf, FieldKind.ofText?, hp, Except.toOption]

/-- The fields that are not checked when a layer is laid, since it cannot say anything invalid of
them. -/
theorem eq_map_some_of_place (x : Option String) :
    x.map (fun s => FieldKind.place.ofText? s) = (x.map some).map some := by
  cases x <;> rfl

/-- What is said of a field is valid if the layer can be laid, and the field has that value then. -/
theorem Settings.value_of_apply {s t : Settings} {l : Layer} {source : LayerSource}
    (h : s.apply l source = .ok t) (f : Field) :
    ∃ x : Option f.kind.Value, l.sayings f = x.map some ∧ t.value f = x.getD (s.value f) := by
  simp only [Settings.apply, bind_eq_ok_iff, pure_eq_ok_iff, requestBytes_eq_ok_iff,
    timeoutOf_eq_ok_iff, headersOf_eq_ok_iff] at h
  obtain ⟨bytes, hbytes, wait, hwait, headers, hheaders, period, hperiod, rfl⟩ := h
  cases f with
  | httpAddress => exact ⟨l.httpAddress, rfl, rfl⟩
  | grpcAddress => exact ⟨l.grpcAddress, rfl, rfl⟩
  | httpEnabled => exact ⟨l.httpEnabled, rfl, rfl⟩
  | grpcEnabled => exact ⟨l.grpcEnabled, rfl, rfl⟩
  | maxRequestBytes => exact ⟨bytes, hbytes, rfl⟩
  | consumerTimeout => exact ⟨wait, hwait, rfl⟩
  | exporter => exact ⟨l.exporter, rfl, rfl⟩
  | forwardEndpoint =>
      refine ⟨l.forwardEndpoint.map some, eq_map_some_of_place _, ?_⟩
      simp only [Settings.value]
      cases l.forwardEndpoint <;> rfl
  | forwardProtocol => exact ⟨l.forwardProtocol, rfl, rfl⟩
  | forwardCompression => exact ⟨l.forwardCompression, rfl, rfl⟩
  | forwardHeaders => exact ⟨headers, hheaders, rfl⟩
  | forwardTimeout => exact ⟨period, hperiod, rfl⟩

theorem Settings.exists_apply {l : Layer} (hl : l.sayings.Valid) (s : Settings)
    (source : LayerSource) : ∃ t, s.apply l source = .ok t := by
  have hbytes : l.requestBytes source = .ok _ :=
    requestBytes_eq_ok_iff.mpr (eq_map_some_of_ne (hl .maxRequestBytes))
  have hwait : timeoutOf .consumer source l.consumerTimeout = .ok _ :=
    timeoutOf_eq_ok_iff.mpr (eq_map_some_of_ne (hl .consumerTimeout))
  have hheaders : headersOf source l.forwardHeaders = .ok _ :=
    headersOf_eq_ok_iff.mpr (eq_map_some_of_ne (hl .forwardHeaders))
  have hperiod : timeoutOf .forward source l.forwardTimeout = .ok _ :=
    timeoutOf_eq_ok_iff.mpr (eq_map_some_of_ne (hl .forwardTimeout))
  simp only [Settings.apply, bind_eq_ok_iff, pure_eq_ok_iff]
  exact ⟨_, _, hbytes, _, hwait, _, hheaders, _, hperiod, rfl⟩

/-- **A layer laid over settings**: all that it says has to be valid, and every field of which it
says something has that value. -/
theorem Settings.apply_eq_ok_iff {s t : Settings} {l : Layer} {source : LayerSource} :
    s.apply l source = .ok t ↔
      l.sayings.Valid ∧ ∀ f, t.value f = (l.sayings.value? f).getD (s.value f) := by
  constructor
  · intro h
    refine ⟨fun f => ?_, fun f => ?_⟩
    · obtain ⟨x, hx, -⟩ := value_of_apply h f
      exact ne_some_none_of_eq hx
    · obtain ⟨x, hx, ht⟩ := value_of_apply h f
      rw [ht, Sayings.value?, (eq_map_some_iff.mp hx).2]
  · rintro ⟨hvalid, hvalue⟩
    -- the settings that result have the same values, and there are no others
    obtain ⟨t', ht'⟩ := exists_apply hvalid s source
    have heq : t' = t := ext_value fun f => by
      obtain ⟨x, hx, hval⟩ := value_of_apply ht' f
      rw [hval, hvalue f, Sayings.value?, (eq_map_some_iff.mp hx).2]
    rw [ht', heq]

/-- The layer of a source laid over settings, where the source says what its layer says and has one
if all that it says is valid. -/
theorem Settings.exists_apply_eq_ok_iff {Made : Layer → Prop} {r : Sayings}
    (hsame : ∀ l, Made l → l.sayings = r) (hmade : r.Valid → ∃ l, Made l) {s t : Settings}
    {source : LayerSource} :
    (∃ l, Made l ∧ s.apply l source = .ok t) ↔
      r.Valid ∧ ∀ f, t.value f = (r.value? f).getD (s.value f) := by
  constructor
  · rintro ⟨l, hl, ht⟩
    rw [← hsame l hl]
    exact apply_eq_ok_iff.mp ht
  · rintro ⟨hvalid, ht⟩
    obtain ⟨l, hl⟩ := hmade hvalid
    refine ⟨l, hl, apply_eq_ok_iff.mpr ?_⟩
    rw [hsame l hl]
    exact ⟨hvalid, ht⟩

/-! ### The layer of the environment -/

theorem typedVariable_eq_ok_iff {α : Type} {env : Environment} {key : String}
    {read : String → Except ScalarError α} {x : Option α} :
    typedVariable env key read = .ok x ↔
      (env key).map (fun v => (read v).toOption) = x.map some := by
  rw [typedVariable]
  cases env key with
  | none => cases x <;> simp
  | some v => cases hv : read v <;> cases x <;> simp [hv, Except.toOption]

/-- The layer of the environment says what the environment says. -/
theorem Layer.sayings_ofEnvironment {env : Environment} {l : Layer}
    (h : ofEnvironment env = .ok l) : l.sayings = env.sayings := by
  simp only [ofEnvironment, bind_eq_ok_iff, pure_eq_ok_iff, typedVariable_eq_ok_iff] at h
  obtain ⟨http, hhttp, grpc, hgrpc, bytes, hbytes, rfl⟩ := h
  funext f
  cases f with
  | httpEnabled => exact hhttp.symm
  | grpcEnabled => exact hgrpc.symm
  | maxRequestBytes => exact (map_bind_of_map_eq hbytes positive?).symm
  | httpAddress | grpcAddress | consumerTimeout | exporter | forwardEndpoint | forwardProtocol
  | forwardCompression | forwardHeaders | forwardTimeout => rfl

theorem Layer.exists_ofEnvironment {env : Environment} (h : env.sayings.Valid) :
    ∃ l, ofEnvironment env = .ok l := by
  have hhttp := typedVariable_eq_ok_iff.mpr (eq_map_some_of_ne (h .httpEnabled))
  have hgrpc := typedVariable_eq_ok_iff.mpr (eq_map_some_of_ne (h .grpcEnabled))
  -- a number may be written well and yet be no size
  obtain ⟨bytes, hbytes⟩ := exists_map_some_of_ne positive? (h .maxRequestBytes)
  simp only [ofEnvironment, bind_eq_ok_iff, pure_eq_ok_iff]
  exact ⟨_, _, hhttp, _, hgrpc, _, typedVariable_eq_ok_iff.mpr hbytes, rfl⟩

/-- Settings with the environment laid over them. -/
theorem Settings.apply_ofEnvironment_eq_ok_iff {env : Environment} {s t : Settings} :
    (∃ l, Layer.ofEnvironment env = .ok l ∧ s.apply l .environment = .ok t) ↔
      env.sayings.Valid ∧ ∀ f, t.value f = (env.sayings.value? f).getD (s.value f) :=
  exists_apply_eq_ok_iff (fun _ => Layer.sayings_ofEnvironment) Layer.exists_ofEnvironment

/-! ### The layer of the file -/

theorem fieldOf?_eq_some_iff {α : Type} {entries : List (String × Toml.Value)} {key : String}
    {read? : Toml.Value → Option α} {x : Option α} :
    fieldOf? entries key read? = some x ↔
      (Toml.lookup? key entries).map read? = x.map some := by
  rw [fieldOf?]
  cases Toml.lookup? key entries with
  | none => cases x <;> simp
  | some v => cases hv : read? v <;> cases x <;> simp [hv]

/-- The layer of a document says what the document says. -/
theorem Layer.sayings_ofTable? {entries : List (String × Toml.Value)} {l : Layer}
    (h : ofTable? entries = some l) : l.sayings = Toml.sayings entries := by
  simp only [ofTable?, Option.bind_eq_bind, Option.bind_eq_some_iff, Option.pure_def,
    Option.some.injEq, fieldOf?_eq_some_iff] at h
  obtain ⟨httpAddress, hhttpAddress, grpcAddress, hgrpcAddress, httpEnabled, hhttpEnabled,
    grpcEnabled, hgrpcEnabled, bytes, hbytes, wait, hwait, exporter, hexporter, endpoint,
    hendpoint, protocol, hprotocol, compression, hcompression, headers, hheaders, period,
    hperiod, rfl⟩ := h
  funext f
  cases f with
  | httpAddress => exact (map_bind_of_map_eq hhttpAddress _).symm
  | grpcAddress => exact (map_bind_of_map_eq hgrpcAddress _).symm
  | httpEnabled => exact hhttpEnabled.symm
  | grpcEnabled => exact hgrpcEnabled.symm
  | maxRequestBytes => exact (map_bind_of_map_eq hbytes _).symm
  | consumerTimeout => exact (map_bind_of_map_eq hwait _).symm
  | exporter => exact (map_bind_of_map_eq hexporter _).symm
  | forwardEndpoint => exact (map_bind_of_map_eq hendpoint _).symm
  | forwardProtocol => exact (map_bind_of_map_eq hprotocol _).symm
  | forwardCompression => exact (map_bind_of_map_eq hcompression _).symm
  | forwardHeaders => exact (map_bind_of_map_eq hheaders _).symm
  | forwardTimeout => exact (map_bind_of_map_eq hperiod _).symm

/-- The text of a key, if a field whose values are texts of their own is valid. -/
theorem exists_text_of_valid {entries : List (String × Toml.Value)}
    (h : (Toml.sayings entries).Valid) (f : Field)
    (hf : ∀ v, f.kind.ofToml? v = (textValue? v).bind fun s => f.kind.ofText? s) :
    ∃ x, fieldOf? entries f.key textValue? = some x := by
  have hvalid : (Toml.lookup? f.key entries).map
      (fun v => (textValue? v).bind fun s => f.kind.ofText? s) ≠ some none := by
    simp only [← hf]
    exact h f
  obtain ⟨x, hx⟩ := exists_map_some_of_ne _ hvalid
  exact ⟨x, fieldOf?_eq_some_iff.mpr hx⟩

theorem Layer.exists_ofTable? {entries : List (String × Toml.Value)}
    (h : (Toml.sayings entries).Valid) : ∃ l, ofTable? entries = some l := by
  obtain ⟨_, hhttpAddress⟩ := exists_text_of_valid h .httpAddress fun _ => rfl
  obtain ⟨_, hgrpcAddress⟩ := exists_text_of_valid h .grpcAddress fun _ => rfl
  have hhttp := fieldOf?_eq_some_iff.mpr (eq_map_some_of_ne (h .httpEnabled))
  have hgrpc := fieldOf?_eq_some_iff.mpr (eq_map_some_of_ne (h .grpcEnabled))
  obtain ⟨_, hbytes⟩ := exists_map_some_of_ne positive? (h .maxRequestBytes)
  obtain ⟨_, hwait⟩ := exists_text_of_valid h .consumerTimeout fun _ => rfl
  obtain ⟨_, hexporter⟩ := exists_text_of_valid h .exporter fun _ => rfl
  obtain ⟨_, hendpoint⟩ := exists_text_of_valid h .forwardEndpoint fun _ => rfl
  obtain ⟨_, hprotocol⟩ := exists_text_of_valid h .forwardProtocol fun _ => rfl
  obtain ⟨_, hcompression⟩ := exists_text_of_valid h .forwardCompression fun _ => rfl
  obtain ⟨_, hheaders⟩ := exists_text_of_valid h .forwardHeaders fun _ => rfl
  obtain ⟨_, hperiod⟩ := exists_text_of_valid h .forwardTimeout fun _ => rfl
  simp only [ofTable?, Option.bind_eq_bind, Option.bind_eq_some_iff, Option.pure_def,
    Option.some.injEq]
  exact ⟨_, _, hhttpAddress, _, hgrpcAddress, _, hhttp, _, hgrpc, _,
    fieldOf?_eq_some_iff.mpr hbytes, _, hwait, _, hexporter, _, hendpoint, _, hprotocol, _,
    hcompression, _, hheaders, _, hperiod, rfl⟩

/-- The document at a path: an empty one where no file is found, and none if the file cannot be read
or holds no document. -/
def FileContent.entries? : FileContent → Option (List (String × Toml.Value))
  | absent | blocked | unseen _ => some []
  | directory | unopened _ => none
  | bytes bs => (Utf8.decode bs).toOption.bind Toml.read?

/-- Settings with the layer of a document laid over them. -/
theorem Settings.apply_ofTable?_eq_ok_iff {entries : List (String × Toml.Value)} {s t : Settings} :
    (∃ l, Layer.ofTable? entries = some l ∧ s.apply l .file = .ok t) ↔
      (Toml.sayings entries).Valid ∧
        ∀ f, t.value f = ((Toml.sayings entries).value? f).getD (s.value f) :=
  exists_apply_eq_ok_iff (fun _ => Layer.sayings_ofTable?) Layer.exists_ofTable?

/-! ### All layers -/

namespace Settings

/-- What is laid over something is laid over what that was laid over. -/
theorem exists_between_iff {low high : Sayings} {s t : Settings} :
    (∃ m : Settings, (∀ f, m.value f = (low.value? f).getD (s.value f)) ∧
        ∀ f, t.value f = (high.value? f).getD (m.value f)) ↔
      ∀ f, t.value f = ((high.value? f).or (low.value? f)).getD (s.value f) := by
  simp only [Option.getD_or]
  constructor
  · rintro ⟨m, hm, ht⟩ f
    rw [ht f, hm f]
  · intro ht
    obtain ⟨m, hm⟩ := exists_value fun f => (low.value? f).getD (s.value f)
    exact ⟨m, fun f => congrFun hm f, fun f => by rw [ht f, hm]⟩

theorem load_absent (env : Environment) : load env .absent = ofEnvironment env := rfl

theorem load_blocked (env : Environment) : load env .blocked = ofEnvironment env := rfl

theorem load_unseen (env : Environment) (reason : String) :
    load env (.unseen reason) = ofEnvironment env := rfl

theorem ofEnvironment_eq_ok_iff {env : Environment} {s : Settings} :
    ofEnvironment env = .ok s ↔
      env.sayings.Valid ∧ ∀ f, s.value f = (env.sayings.value? f).getD (default.value f) := by
  rw [ofEnvironment, bind_eq_ok_iff]
  exact apply_ofEnvironment_eq_ok_iff

theorem load_bytes_eq_ok_iff {env : Environment} {bs : Bytes} {s : Settings} :
    load env (.bytes bs) = .ok s ↔
      ∃ entries, (FileContent.bytes bs).entries? = some entries ∧
        ∃ m, (∃ l, Layer.ofTable? entries = some l ∧ default.apply l .file = .ok m) ∧
          ∃ l, Layer.ofEnvironment env = .ok l ∧ m.apply l .environment = .ok s := by
  simp only [load, Layer.ofFile, FileContent.entries?, bind_eq_ok_iff]
  cases Utf8.decode bs with
  | error e => simp [Except.toOption]
  | ok text =>
      simp only [Except.toOption, Option.bind_some]
      cases Toml.read? text with
      | none => simp
      | some entries => cases htable : Layer.ofTable? entries <;> simp [htable, bind_eq_ok_iff]

theorem exists_entries_nil_iff {env : Environment} {s : Settings} :
    (∃ entries, some [] = some entries ∧ (Toml.sayings entries).Valid ∧ env.sayings.Valid ∧
        ∀ f, s.value f = ((env.sayings.value? f).or ((Toml.sayings entries).value? f)).getD
          (default.value f)) ↔
      ofEnvironment env = .ok s := by
  have hvalue (f : Field) : (Toml.sayings []).value? f = none := rfl
  rw [ofEnvironment_eq_ok_iff]
  constructor
  · rintro ⟨entries, h, -, henv, hs⟩
    obtain rfl := Option.some.inj h
    exact ⟨henv, fun f => by rw [hs f, hvalue, Option.or_none]⟩
  · rintro ⟨henv, hs⟩
    exact ⟨[], rfl, fun f => nofun, henv, fun f => by rw [hs f, hvalue, Option.or_none]⟩

/-- **The settings that are loaded, field by field.** -/
theorem load_eq_ok_iff {env : Environment} {file : FileContent} {s : Settings} :
    load env file = .ok s ↔
      ∃ entries, file.entries? = some entries ∧
        (Toml.sayings entries).Valid ∧ env.sayings.Valid ∧
          ∀ f, s.value f = ((env.sayings.value? f).or ((Toml.sayings entries).value? f)).getD
            (default.value f) := by
  cases file with
  | absent =>
      rw [load_absent]
      exact exists_entries_nil_iff.symm
  | blocked =>
      rw [load_blocked]
      exact exists_entries_nil_iff.symm
  | unseen reason =>
      rw [load_unseen]
      exact exists_entries_nil_iff.symm
  | directory | unopened reason =>
      constructor
      · intro h
        cases h
      · rintro ⟨entries, h, -⟩
        cases h
  | bytes bs =>
      rw [load_bytes_eq_ok_iff]
      simp only [apply_ofTable?_eq_ok_iff, apply_ofEnvironment_eq_ok_iff, ← exists_between_iff]
      constructor
      · rintro ⟨entries, hentries, m, ⟨hfile, hm⟩, henv, hs⟩
        exact ⟨entries, hentries, hfile, henv, m, hm, hs⟩
      · rintro ⟨entries, hentries, hfile, henv, m, hm, hs⟩
        exact ⟨entries, hentries, m, ⟨hfile, hm⟩, henv, hs⟩

/-! ### Sizes -/

theorem requestBytes_pos_of_apply {s t : Settings} {l : Layer} {source : LayerSource}
    (h : s.apply l source = .ok t) (hs : 0 < s.maxRequestBytes) : 0 < t.maxRequestBytes := by
  simp only [apply, bind_eq_ok_iff, pure_eq_ok_iff] at h
  obtain ⟨bytes, hbytes, -, -, -, -, -, -, rfl⟩ := h
  rw [Layer.requestBytes] at hbytes
  split at hbytes
  case h_1 =>
    obtain rfl := Except.ok.inj hbytes
    exact hs
  case h_2 n _ =>
    split at hbytes
    · cases hbytes
    · obtain rfl := Except.ok.inj hbytes
      exact Nat.pos_of_ne_zero ‹_›

theorem requestBytes_pos_of_ofEnvironment {env : Environment} {s : Settings}
    (h : ofEnvironment env = .ok s) : 0 < s.maxRequestBytes := by
  obtain ⟨l, -, hl⟩ := bind_eq_ok_iff.mp h
  exact requestBytes_pos_of_apply hl (by decide)

/-- Requests may have some size in all settings that are loaded, since no layer can take that
away. -/
theorem requestBytes_pos_of_load {env : Environment} {file : FileContent} {s : Settings}
    (h : load env file = .ok s) : 0 < s.maxRequestBytes := by
  cases file with
  | absent => exact requestBytes_pos_of_ofEnvironment h
  | blocked => exact requestBytes_pos_of_ofEnvironment h
  | unseen reason => exact requestBytes_pos_of_ofEnvironment h
  | directory | unopened reason => cases h
  | bytes bs =>
      obtain ⟨entries, -, m, ⟨_, -, hm⟩, _, -, hs⟩ := load_bytes_eq_ok_iff.mp h
      exact requestBytes_pos_of_apply hs (requestBytes_pos_of_apply hm (by decide))

/-! ### The law -/

/-- **When settings are loaded, and what they are.**  Settings are loaded exactly if the file, where
there is one, can be read and is a document, and all that the document and the environment say of
fields is valid: a bad value of the file is an error even if the environment has another one for the
field.  Then each field, on its own, has the value of the environment; if that says nothing of it,
that of the file; and if neither does, the default.  Requests may have some size, and where no file
is found the environment alone counts. -/
theorem load_layering (env : Environment) (file : FileContent) :
    ((∃ s, load env file = .ok s) ↔
      ∃ entries, file.entries? = some entries ∧
        (Toml.sayings entries).Valid ∧ env.sayings.Valid) ∧
    (∀ s, load env file = .ok s →
      0 < s.maxRequestBytes ∧
      ∃ entries, file.entries? = some entries ∧
        ∀ f, s.value f = ((env.sayings.value? f).or ((Toml.sayings entries).value? f)).getD
          (default.value f)) ∧
    load env .absent = ofEnvironment env ∧ load env .blocked = ofEnvironment env ∧
    ∀ reason, load env (.unseen reason) = ofEnvironment env := by
  refine ⟨⟨?_, ?_⟩, fun s hs => ⟨requestBytes_pos_of_load hs, ?_⟩, load_absent env,
    load_blocked env, load_unseen env⟩
  · rintro ⟨s, hs⟩
    obtain ⟨entries, hentries, hfile, henv, -⟩ := load_eq_ok_iff.mp hs
    exact ⟨entries, hentries, hfile, henv⟩
  · rintro ⟨entries, hentries, hfile, henv⟩
    obtain ⟨s, hs⟩ := exists_value fun f =>
      ((env.sayings.value? f).or ((Toml.sayings entries).value? f)).getD (default.value f)
    exact ⟨s, load_eq_ok_iff.mpr ⟨entries, hentries, hfile, henv, fun f => congrFun hs f⟩⟩
  · obtain ⟨entries, hentries, -, -, hvalue⟩ := load_eq_ok_iff.mp hs
    exact ⟨entries, hentries, hvalue⟩

/-- The environment in which batches are to be forwarded. -/
def forwarding : Environment := fun key => if key = "JTRACE_EXPORTER" then some "otlp" else none

/-- A file by which batches are to be logged, and none come by HTTP. -/
def loggingFile : FileContent := .bytes (Utf8.encode "exporter = \"logging\"\nhttp_enabled = false")

theorem load_layering_loggingFile :
    ∃ s, load forwarding loggingFile = .ok s ∧ s.exporter = "otlp" ∧ s.httpEnabled = false ∧
      0 < s.maxRequestBytes ∧
      ∃ entries, loggingFile.entries? = some entries ∧
        ∀ f, s.value f = ((forwarding.sayings.value? f).or ((Toml.sayings entries).value? f)).getD
          (default.value f) := by
  have hfile : Layer.ofFile (configPath forwarding) loggingFile =
      .ok (some { exporter := some "logging", httpEnabled := some false }) := by
    have htable : (Toml.read? "exporter = \"logging\"\nhttp_enabled = false").bind
        Layer.ofTable? = some { exporter := some "logging", httpEnabled := some false } := by
      decide +kernel
    simp only [loggingFile, Layer.ofFile, Utf8.decode_encode, htable]
  have henv : Layer.ofEnvironment forwarding = .ok { exporter := some "otlp" } := rfl
  have h : load forwarding loggingFile =
      .ok { default with exporter := "otlp", httpEnabled := false } := by
    rw [load, hfile, henv]
    rfl
  exact ⟨_, h, rfl, rfl, (load_layering forwarding loggingFile).2.1 _ h⟩

end Settings

end SpanIntake
