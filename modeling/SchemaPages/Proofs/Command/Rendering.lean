import SchemaPages.Command.Reports
import SchemaPages.Proofs.Html.Entity
import SchemaPages.Proofs.Options.Resolution

/-!
Making the documents of names. The builder answers every call, so the options of the host are the
only thing that can be wrong: where they resolve there is a document list for every name, which
depends on that name alone.
-/

namespace SchemaPages.Command

open Introspection (Schema)
open Options (HostOptions PluginOptions Context pluginKey resolve_eq_error)
open Html (Builder)
open Page (Plugin Document Call)
open Report (RenderedEntity)

/-- The plugin that answers for a schema once the options are known. -/
def pluginWith (schema : Schema) (host : HostOptions) (options : PluginOptions) : HtmlPlugin :=
  Plugin.ofRenderer schema options (builder schema host).renderer

theorem createPlugin_eq (schema : Schema) (host : HostOptions) :
    createPlugin schema host =
      match PluginOptions.resolve host with
      | .ok options => .ok (pluginWith schema host options)
      | .error failure => .error ⟨[.createPlugin], .failed failure⟩ := by
  simp only [createPlugin, Plugin.create]
  cases PluginOptions.resolve host <;> rfl

def pages (schema : Schema) (host : HostOptions) (options : PluginOptions) (name : String) :
    List Document :=
  (Page.callFor? schema name).toList.map fun call =>
    Document.wrap options.documentTitle
      (Html.writeLines ((builder schema host).linker.lines call))

theorem documents_pluginWith (schema : Schema) (host : HostOptions) (options : PluginOptions)
    (name : String) :
    (pluginWith schema host options).documents name = .ok (pages schema host options name) :=
  Html.documents_builder (builder schema host) schema options name

theorem renderName_pluginWith (schema : Schema) (host : HostOptions) (options : PluginOptions)
    (name : String) :
    renderName (pluginWith schema host options) name =
      .ok ⟨name, pages schema host options name⟩ := by
  rw [renderName, documents_pluginWith]
  rfl

theorem renderNames_of_ok {schema : Schema} {host : HostOptions} {options : PluginOptions}
    (h : PluginOptions.resolve host = .ok options) (names : List String) :
    renderNames schema host names =
      .ok (names.map fun name => ⟨name, pages schema host options name⟩) := by
  have hname : renderName (pluginWith schema host options) =
      fun name => pure ⟨name, pages schema host options name⟩ := by
    funext name
    exact renderName_pluginWith schema host options name
  rw [renderNames, createPlugin_eq, h]
  change names.mapM (renderName (pluginWith schema host options)) = _
  rw [hname]
  exact List.mapM_pure

theorem renderNames_of_error {schema : Schema} {host : HostOptions} {failure : Failure}
    (h : PluginOptions.resolve host = .error failure) (names : List String) :
    renderNames schema host names = .error ⟨[.createPlugin], .failed failure⟩ := by
  rw [renderNames, createPlugin_eq, h]
  rfl

theorem exists_of_renderNames {schema : Schema} {host : HostOptions} {names : List String}
    {rendered : List RenderedEntity} (h : renderNames schema host names = .ok rendered) :
    ∃ options, PluginOptions.resolve host = .ok options ∧
      rendered = names.map fun name => ⟨name, pages schema host options name⟩ := by
  cases hoptions : PluginOptions.resolve host with
  | ok options =>
      rw [renderNames_of_ok hoptions] at h
      exact ⟨options, rfl, (Except.ok.inj h).symm⟩
  | error failure =>
      rw [renderNames_of_error hoptions] at h
      cases h

/-- A builder answers every call with a fragment. So names are rendered exactly if the options of
the host resolve: there is one entry for every name in order, each with the documents that the
plugin has for that name, whatever the other names are. Otherwise the options are told to be
wrong. -/
theorem renderNames_resolve (schema : Schema) (host : HostOptions) :
    (∀ (context : Context) (call : Call),
      ∃ fragment, (Builder.ofSchema schema context).renderer.answer call = .ok fragment) ∧
    match PluginOptions.resolve host with
    | .ok _ =>
      ∃ (plugin : HtmlPlugin) (documents : String → List Document),
        createPlugin schema host = .ok plugin ∧
        (∀ name, plugin.documents name = .ok (documents name)) ∧
        ∀ names, renderNames schema host names =
          .ok (names.map fun name => RenderedEntity.mk name (documents name))
    | .error failure =>
      (∃ error, failure = .invalidOptions pluginKey error) ∧
        ∀ names, renderNames schema host names = .error ⟨[.createPlugin], .failed failure⟩ := by
  refine ⟨fun context call => ⟨_, Html.answer_eq _ call⟩, ?_⟩
  cases h : PluginOptions.resolve host with
  | ok options =>
      have hcreate : createPlugin schema host = .ok (pluginWith schema host options) := by
        rw [createPlugin_eq, h]
      exact ⟨_, pages schema host options, hcreate, documents_pluginWith schema host options,
        renderNames_of_ok h⟩
  | error failure => exact ⟨resolve_eq_error h, renderNames_of_error h⟩

end SchemaPages.Command
