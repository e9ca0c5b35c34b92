import SchemaPages.Page.Plugin
import SchemaPages.Proofs.Json.Decoding

/-!
Which sections are options. `IsSection` goes through every value that can stand under the key of the
plugin: there need not be any, null stands for none, and the fields of an object may be missing,
null or of their own types. An array is read as the same two fields in order. The options resolve
for exactly these sections, and where they do not no renderer is made.
-/

namespace SchemaPages.Options

open Introspection (Schema)
open Json (Value Fields IsOptional Decoder)
open Page (Plugin Renderer)

/-- The sections that are options. -/
inductive IsSection : Option Value → Prop
  | absent : IsSection none
  | null : IsSection (some .null)
  | members {members : Json.Members} :
      IsOptional .str (Keyed.get? "documentTitle" members) →
        IsOptional .bool (Keyed.get? "enableAssets" members) → IsSection (some (.obj members))
  | items {items : List Value} :
      IsOptional .str items[0]? → IsOptional .bool items[1]? → items.length ≤ 2 →
        IsSection (some (.arr items))

def overrideOf (title assets : Option Value) : PluginOverride :=
  ⟨title.bind Value.text?, assets.bind Value.flag?⟩

/-- A section is decoded where both of its fields are optional fields of their types. -/
theorem decode_eq_ok_iff {v : Value} {override : PluginOverride} :
    PluginOverride.decode v = .ok override ↔
      ∃ fields, PluginOverride.shape.fields? v = some fields ∧
        (IsOptional .str (fields.value? "documentTitle") ∧
          IsOptional .bool (fields.value? "enableAssets") ∧
            override = overrideOf (fields.value? "documentTitle") (fields.value? "enableAssets")) ∧
        ∀ items, v = .arr items → items.length ≤ 2 := by
  rw [PluginOverride.decode, Json.RecordShape.decode_eq_ok_iff]
  refine exists_congr fun fields => and_congr_right fun _ => and_congr_left fun _ => ?_
  simp only [Json.Reading.seq_eq_read, Json.Reading.map_eq_read,
    Decoder.takes_text.optional_eq_read_iff, Decoder.takes_flag.optional_eq_read_iff]
  constructor
  · rintro ⟨_, assets, ⟨title, ⟨htitle, rfl⟩, rfl⟩, ⟨hassets, rfl⟩, rfl⟩
    exact ⟨htitle, hassets, rfl⟩
  · rintro ⟨htitle, hassets, rfl⟩
    exact ⟨_, _, ⟨_, ⟨htitle, rfl⟩, rfl⟩, ⟨hassets, rfl⟩, rfl⟩

theorem decode_obj {members : Json.Members} {override : PluginOverride} :
    PluginOverride.decode (.obj members) = .ok override ↔
      IsOptional .str (Keyed.get? "documentTitle" members) ∧
        IsOptional .bool (Keyed.get? "enableAssets" members) ∧
          override = overrideOf (Keyed.get? "documentTitle" members)
            (Keyed.get? "enableAssets" members) := by
  rw [decode_eq_ok_iff]
  simp [Json.RecordShape.fields?, Fields.value?]

theorem decode_arr {items : List Value} {override : PluginOverride} :
    PluginOverride.decode (.arr items) = .ok override ↔
      (IsOptional .str items[0]? ∧ IsOptional .bool items[1]? ∧
        override = overrideOf items[0]? items[1]?) ∧ items.length ≤ 2 := by
  rw [decode_eq_ok_iff]
  simp [Json.RecordShape.fields?, Fields.value?, PluginOverride.shape]

/-- The only thing wrong with options is the section of this plugin. -/
theorem resolve_eq_error {host : HostOptions} {failure : Failure}
    (h : PluginOptions.resolve host = .error failure) :
    ∃ error, failure = .invalidOptions pluginKey error := by
  unfold PluginOptions.resolve at h
  split at h
  · cases h
  · cases h
  · split at h
    · cases h
    · cases h
      exact ⟨_, rfl⟩

theorem resolve_of_none {host : HostOptions}
    (h : host.get? pluginKey = none ∨ host.get? pluginKey = some .null) :
    PluginOptions.resolve host = .ok {} := by
  rcases h with h | h <;> rw [PluginOptions.resolve, h]

/-- Any other section gives options exactly if it is decoded. -/
theorem resolve_eq_ok_iff {host : HostOptions} {v : Value} (hnull : v ≠ .null)
    (h : host.get? pluginKey = some v) {options : PluginOptions} :
    PluginOptions.resolve host = .ok options ↔
      ∃ override, PluginOverride.decode v = .ok override ∧ override.apply {} = options := by
  rw [PluginOptions.resolve, h]
  cases hdecode : PluginOverride.decode v <;> simp [hdecode]

/-- A value other than null is decoded exactly if it is a section that is options. -/
theorem exists_decode_iff {v : Value} (hnull : v ≠ .null) :
    (∃ override, PluginOverride.decode v = .ok override) ↔ IsSection (some v) := by
  cases v with
  | null => exact absurd rfl hnull
  | obj members =>
      constructor
      · rintro ⟨override, h⟩
        obtain ⟨htitle, hassets, -⟩ := decode_obj.1 h
        exact .members htitle hassets
      · intro h
        cases h with
        | members htitle hassets => exact ⟨_, decode_obj.2 ⟨htitle, hassets, rfl⟩⟩
  | arr items =>
      constructor
      · rintro ⟨override, h⟩
        obtain ⟨⟨htitle, hassets, -⟩, hlength⟩ := decode_arr.1 h
        exact .items htitle hassets hlength
      · intro h
        cases h with
        | items htitle hassets hlength =>
            exact ⟨_, decode_arr.2 ⟨⟨htitle, hassets, rfl⟩, hlength⟩⟩
  | _ =>
      constructor
      · rintro ⟨override, h⟩
        cases h
      · rintro ⟨⟩

theorem exists_resolve_iff (host : HostOptions) :
    (∃ options, PluginOptions.resolve host = .ok options) ↔ IsSection (host.get? pluginKey) := by
  cases hsection : host.get? pluginKey with
  | none => exact ⟨fun _ => .absent, fun _ => ⟨_, resolve_of_none (.inl hsection)⟩⟩
  | some v =>
      by_cases hnull : v = .null
      · subst hnull
        exact ⟨fun _ => .null, fun _ => ⟨_, resolve_of_none (.inr hsection)⟩⟩
      · rw [← exists_decode_iff hnull]
        simp only [resolve_eq_ok_iff hnull hsection]
        rw [exists_comm]
        simp

/-- The options of a host resolve for exactly the sections that are options. For every other section
the failure is that the options of the plugin are invalid; a plugin is then not made, and its
renderer is not even begun. -/
theorem resolve_iff_isSection (host : HostOptions) :
    ((∃ options, PluginOptions.resolve host = .ok options) ↔
      IsSection (host.get? pluginKey)) ∧
    ((∃ error, PluginOptions.resolve host = .error (.invalidOptions pluginKey error) ∧
      ∀ {m n : Type → Type} [Monad n] [MonadExceptOf Failure n] (schema : Schema)
        (makeRenderer : n (Renderer m)),
        Plugin.create schema host makeRenderer = throw (.invalidOptions pluginKey error)) ↔
      ¬ IsSection (host.get? pluginKey)) := by
  refine ⟨exists_resolve_iff host, ?_⟩
  rw [← exists_resolve_iff]
  constructor
  · rintro ⟨error, herror, -⟩ ⟨options, hoptions⟩
    rw [hoptions] at herror
    cases herror
  · intro hnone
    cases hresolve : PluginOptions.resolve host with
    | ok options => exact absurd ⟨options, hresolve⟩ hnone
    | error failure =>
        obtain ⟨error, rfl⟩ := resolve_eq_error hresolve
        refine ⟨error, rfl, ?_⟩
        intro m n _ _ schema makeRenderer
        rw [Plugin.create, hresolve]

/-- An array with a title and a flag is taken for options, though it is no object. -/
theorem resolve_array :
    let host : HostOptions := ⟨[(pluginKey, .arr [.str "Schema", .bool false])]⟩
    host.get? pluginKey = some (.arr [.str "Schema", .bool false]) ∧
      PluginOptions.resolve host = .ok ⟨"Schema", false⟩ :=
  ⟨rfl, rfl⟩

end SchemaPages.Options
