import SchemaPages.Options.Context
import SchemaPages.Proofs.Keyed.Order
import SchemaPages.Proofs.Options.Resolution

/-!
What a command line sets over the options of a file. Overrides that set anything at all replace the
section of the plugin by an object, which has the fields that they set over those of the section
that was there; `setIn` is that section. So a field that is set counts whatever stood there before,
and the section has to be right only in the field that is not set.
-/

namespace SchemaPages.Options

open Json (Value IsOptional)

/-! ### The section -/

def Overrides.settings (overrides : Overrides) : PluginOverride :=
  ⟨overrides.title, if overrides.noAssets then some false else none⟩

def Overrides.field? (overrides : Overrides) (field : String) : Option Value :=
  if field = "documentTitle" then overrides.settings.documentTitle.map .str
  else if field = "enableAssets" then overrides.settings.enableAssets.map .bool
  else none

/-- The fields of a section with what overrides set. -/
def Overrides.setIn (overrides : Overrides) (members : Json.Members) : Json.Members :=
  let titled :=
    match overrides.title with
    | some title => Keyed.insert "documentTitle" (.str title) members
    | none => members
  if overrides.noAssets then Keyed.insert "enableAssets" (.bool false) titled else titled

theorem get?_setIn (overrides : Overrides) (members : Json.Members) (field : String) :
    Keyed.get? field (overrides.setIn members) =
      (overrides.field? field).or (Keyed.get? field members) := by
  obtain ⟨title, noAssets⟩ := overrides
  by_cases htitle : field = "documentTitle"
  · subst htitle
    cases title <;> cases noAssets <;>
      simp [Overrides.setIn, Overrides.field?, Overrides.settings, Keyed.get?_insert]
  · cases title <;> cases noAssets <;>
      simp [Overrides.setIn, Overrides.field?, Overrides.settings, Keyed.get?_insert, htitle]
    all_goals split <;> rfl

theorem setIn_setIn (overrides : Overrides) (members : Json.Members) :
    overrides.setIn (overrides.setIn members) = overrides.setIn members := by
  have hne : "documentTitle" ≠ "enableAssets" := by decide
  obtain ⟨title, noAssets⟩ := overrides
  cases title <;> cases noAssets <;>
    simp [Overrides.setIn, Keyed.insert_insert, Keyed.insert_comm hne]

/-- Overrides that set nothing leave a host as it is. All others replace the section of the plugin,
whatever it was, by an object. -/
theorem apply_eq (overrides : Overrides) (host : HostOptions) :
    overrides.apply host =
      if overrides = {} then host
      else host.withSection pluginKey (.obj (overrides.setIn (host.fields pluginKey))) := by
  obtain ⟨title, noAssets⟩ := overrides
  cases title with
  | none => cases noAssets <;> rfl
  | some title =>
      cases noAssets with
      | false => rfl
      | true =>
          change (host.setField _ _ _).setField pluginKey "enableAssets" (.bool false) = _
          simp only [HostOptions.setField, HostOptions.withSection_withSection,
            HostOptions.fields_withSection]
          rfl

/-! ### The options -/

theorem resolve_withSection {host : HostOptions} {members : Json.Members}
    {options : PluginOptions} :
    PluginOptions.resolve (host.withSection pluginKey (.obj members)) = .ok options ↔
      IsOptional .str (Keyed.get? "documentTitle" members) ∧
        IsOptional .bool (Keyed.get? "enableAssets" members) ∧
          (overrideOf (Keyed.get? "documentTitle" members)
            (Keyed.get? "enableAssets" members)).apply {} = options := by
  have hsection : (host.withSection pluginKey (.obj members)).get? pluginKey =
      some (.obj members) := by
    rw [HostOptions.get?_withSection, if_pos rfl]
  rw [resolve_eq_ok_iff (by simp) hsection]
  simp only [decode_obj]
  constructor
  · rintro ⟨_, ⟨htitle, hassets, rfl⟩, rfl⟩
    exact ⟨htitle, hassets, rfl⟩
  · rintro ⟨htitle, hassets, rfl⟩
    exact ⟨_, ⟨htitle, hassets, rfl⟩, rfl⟩

theorem isOptional_or {α : Type} {write : α → Value} {value : Option α} {found : Option Value} :
    IsOptional write ((value.map write).or found) ↔ value.isSome ∨ IsOptional write found := by
  cases value with
  | none => simp
  | some a => simp [IsOptional]

/-- The options that count once overrides that set something have been applied. -/
theorem resolve_apply {overrides : Overrides} (h : overrides ≠ {}) {host : HostOptions}
    {options : PluginOptions} :
    PluginOptions.resolve (overrides.apply host) = .ok options ↔
      (overrides.title.isSome ∨
          IsOptional .str (Keyed.get? "documentTitle" (host.fields pluginKey))) ∧
        (overrides.noAssets ∨
          IsOptional .bool (Keyed.get? "enableAssets" (host.fields pluginKey))) ∧
        options.documentTitle = (overrides.title.or
          ((Keyed.get? "documentTitle" (host.fields pluginKey)).bind Value.text?)).getD
            "Definition" ∧
        options.enableAssets = (!overrides.noAssets &&
          ((Keyed.get? "enableAssets" (host.fields pluginKey)).bind Value.flag?).getD true) := by
  rw [apply_eq, if_neg h, resolve_withSection, get?_setIn, get?_setIn]
  have htitle : overrides.field? "documentTitle" = overrides.title.map .str := rfl
  have hassets : overrides.field? "enableAssets" =
      (if overrides.noAssets then some false else none).map .bool := rfl
  rw [htitle, hassets, isOptional_or, isOptional_or]
  have hset : (if overrides.noAssets then some false else none).isSome ↔
      overrides.noAssets = true := by
    cases overrides.noAssets <;> simp
  rw [hset]
  refine and_congr_right fun _ => and_congr_right fun _ => ?_
  obtain ⟨documentTitle, enableAssets⟩ := options
  obtain ⟨title, noAssets⟩ := overrides
  cases title <;> cases noAssets <;>
    simp [overrideOf, PluginOverride.apply, Value.text?, Value.flag?, eq_comm]

theorem get?_apply (overrides : Overrides) (host : HostOptions) {key : String}
    (hkey : key ≠ pluginKey) : (overrides.apply host).get? key = host.get? key := by
  rw [apply_eq]
  split
  · rfl
  · rw [HostOptions.get?_withSection, if_neg hkey]

/-- The fields of the section are those that are set, over those that it had. -/
theorem get?_fields_apply (overrides : Overrides) (host : HostOptions) (field : String) :
    Keyed.get? field ((overrides.apply host).fields pluginKey) =
      (overrides.field? field).or (Keyed.get? field (host.fields pluginKey)) := by
  by_cases hempty : overrides = {}
  · have hnone : Overrides.field? {} field = none := by
      simp [Overrides.field?, Overrides.settings]
    rw [hempty, hnone, Option.none_or]
    rfl
  · rw [apply_eq, if_neg hempty, HostOptions.fields_withSection, get?_setIn]

theorem apply_apply (overrides : Overrides) (host : HostOptions) :
    overrides.apply (overrides.apply host) = overrides.apply host := by
  rw [apply_eq, apply_eq]
  split
  · rfl
  · rw [HostOptions.fields_withSection, setIn_setIn, HostOptions.withSection_withSection]

theorem ofHost_apply (overrides : Overrides) (host : HostOptions) :
    Context.ofHost (overrides.apply host) = Context.ofHost host := by
  have hne : hostKey ≠ pluginKey := by decide
  rw [Context.ofHost, get?_apply overrides host hne, Context.ofHost]

/-- What overrides do to a host. Those that set nothing change nothing. For all others the options
resolve exactly if each of the two fields is set or may stand as it is in the section, and then a
field that is set counts before the section and the section before the default; a section that is no
object counts for an empty one. No other section and no other field is changed, so the context of
the host is the same, and setting the same things again makes no difference. -/
theorem apply_precedence (overrides : Overrides) (host : HostOptions) :
    let fields := host.fields pluginKey
    let host' := overrides.apply host
    (overrides = {} → host' = host) ∧
    (overrides ≠ {} →
      ((∃ options, PluginOptions.resolve host' = .ok options) ↔
        (overrides.title.isSome ∨ IsOptional .str (Keyed.get? "documentTitle" fields)) ∧
          (overrides.noAssets ∨ IsOptional .bool (Keyed.get? "enableAssets" fields))) ∧
      (∀ options, PluginOptions.resolve host' = .ok options →
        options.documentTitle = (overrides.title.or
          ((Keyed.get? "documentTitle" fields).bind Value.text?)).getD "Definition" ∧
        options.enableAssets = (!overrides.noAssets &&
          ((Keyed.get? "enableAssets" fields).bind Value.flag?).getD true)) ∧
      ∀ failure, PluginOptions.resolve host' = .error failure →
        ∃ error, failure = .invalidOptions pluginKey error) ∧
    (∀ key, key ≠ pluginKey → host'.get? key = host.get? key) ∧
    (∀ field, Keyed.get? field (host'.fields pluginKey) =
      (overrides.field? field).or (Keyed.get? field fields)) ∧
    Context.ofHost host' = Context.ofHost host ∧
    overrides.apply host' = host' := by
  intro fields host'
  refine ⟨?_, ?_, fun key => get?_apply overrides host, get?_fields_apply overrides host,
    ofHost_apply overrides host, apply_apply overrides host⟩
  · intro hempty
    exact (apply_eq overrides host).trans (if_pos hempty)
  · intro hne
    refine ⟨?_, ?_, fun failure => resolve_eq_error⟩
    · constructor
      · rintro ⟨options, hoptions⟩
        obtain ⟨htitle, hassets, -⟩ := (resolve_apply hne).1 hoptions
        exact ⟨htitle, hassets⟩
      · rintro ⟨htitle, hassets⟩
        exact ⟨⟨_, _⟩, (resolve_apply hne).2 ⟨htitle, hassets, rfl, rfl⟩⟩
    · intro options hoptions
      exact ((resolve_apply hne).1 hoptions).2.2

/-- A section whose title is no text, with a field that is not known. -/
def mistyped : HostOptions where
  sections := [
    (pluginKey, .obj [("documentTitle", .int 5), ("enableAssets", .null), ("theme", .str "dark")])]

/-- A title from the command line makes such a section right, and an unknown field stays. Disabling
the assets does not: it leaves the title as it is. -/
theorem apply_mistyped :
    (⟨some "Schema", false⟩ : Overrides) ≠ {} ∧ (⟨none, true⟩ : Overrides) ≠ {} ∧
      (∃ options, PluginOptions.resolve ((⟨some "Schema", false⟩ : Overrides).apply mistyped) =
        .ok options ∧ options.documentTitle = "Schema" ∧ options.enableAssets = true) ∧
      (¬ ∃ options, PluginOptions.resolve ((⟨none, true⟩ : Overrides).apply mistyped) =
        .ok options) ∧
      Keyed.get? "theme"
        (((⟨some "Schema", false⟩ : Overrides).apply mistyped).fields pluginKey) =
          some (.str "dark") := by
  have htitle : (⟨some "Schema", false⟩ : Overrides) ≠ {} := by decide
  have hassets : (⟨none, true⟩ : Overrides) ≠ {} := by decide
  have hfields : mistyped.fields pluginKey =
      [("documentTitle", .int 5), ("enableAssets", .null), ("theme", .str "dark")] := rfl
  obtain ⟨-, htitled, -, hkept, -⟩ := apply_precedence ⟨some "Schema", false⟩ mistyped
  obtain ⟨-, huntitled, -⟩ := apply_precedence ⟨none, true⟩ mistyped
  rw [hfields] at htitled huntitled hkept
  obtain ⟨hok, hvalues, -⟩ := htitled htitle
  obtain ⟨options, hoptions⟩ := hok.2 ⟨.inl rfl, .inr (.inr (.inl rfl))⟩
  refine ⟨htitle, hassets, ⟨options, hoptions, hvalues options hoptions⟩, ?_, hkept "theme"⟩
  rw [(huntitled hassets).1]
  rintro ⟨h, -⟩
  simp [IsOptional, Keyed.get?_cons, Value.int] at h

end SchemaPages.Options
