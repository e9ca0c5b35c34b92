import SchemaPages.Proofs.Command.Rendering
import SchemaPages.Proofs.Command.Stages

/-!
The stages of a command. Reading and parsing, the options and the stylesheet are each followed to
the stage that they end in; a command goes through them one after the other.
-/

namespace SchemaPages.Command

open Files (Path Tree FileError Work Storage)
open Introspection (Schema)
open Json (Value)
open Options (HostOptions PluginOptions Overrides resolve_eq_error)
open Page (Plugin)

/-! ### Loading -/

section Loading

variable (line : Line) (tree : Tree)

end Loading

/-! ### Making the report -/

section Reporting

open Html (Builder)

variable {line : Line} {tree : Tree} {host : HostOptions}

theorem gives_writeAssets (tree : Tree) (builder : Builder) (directory : Path) :
    ∃ found after, Work.Gives (writeStylesheet directory) tree found after ∧
      match found with
      | .ok () =>
        Work.Gives (builder.writeAssets directory) tree
          (.ok { builder with assets := [directory.join Html.stylesheetName] }) after
      | .error error =>
        ∃ path, (path = directory ∨ path = directory.join Html.stylesheetName) ∧
          Work.Gives (builder.writeAssets directory) tree (.error (.asset path error)) after := by
  obtain ⟨made, hcreate⟩ := Work.exists_gives (Work.createDirectory directory) tree
  have hadapted := hcreate.adapt (Failure.asset directory)
  cases hdirectory : Work.result tree (Work.createDirectory directory) with
  | error error =>
      rw [hdirectory] at hcreate hadapted
      exact ⟨.error error, made, hcreate.bind_error, directory, .inl rfl, hadapted.bind_error⟩
  | ok _ =>
      rw [hdirectory] at hcreate hadapted
      let path := directory.join Html.stylesheetName
      let write := Work.write path Html.stylesheet.toUTF8
      obtain ⟨last, hwrite⟩ := Work.exists_gives write made
      have hlast := hwrite.adapt (Failure.asset path)
      cases hwritten : Work.result made write with
      | error error =>
          rw [hwritten] at hwrite hlast
          exact ⟨.error error, last, hcreate.bind_ok hwrite, path, .inr rfl,
            hadapted.bind_ok hlast.bind_error⟩
      | ok _ =>
          rw [hwritten] at hwrite hlast
          exact ⟨.ok (), last, hcreate.bind_ok hwrite,
            hadapted.bind_ok (hlast.bind_ok (.ofExcept (.ok _)))⟩

def preparedBuilder (schema : Schema) (host : HostOptions) : Option Path → Work Failure Builder
  | some directory => (builder schema host).writeAssets directory
  | none => pure (builder schema host)

theorem createPluginWithAssets_eq (schema : Schema) (host : HostOptions) (out : Option Path) :
    createPluginWithAssets schema host out =
      ExceptT.adapt (fun failure => (Trouble.ofFailure failure).during .createPlugin)
        (Plugin.create schema host (Builder.renderer <$> preparedBuilder schema host out)) := by
  cases out <;> rfl

theorem gives_collectAssets_of_error (tree : Tree) (schema : Schema) {failure : Failure}
    (h : PluginOptions.resolve host = .error failure) (out : Option Path) :
    Work.Gives (collectAssets schema host out) tree
      (.error ⟨[.createPlugin], .failed failure⟩) tree := by
  rw [collectAssets, createPluginWithAssets_eq, Plugin.create, h]
  rfl

/-- If the options resolve, making the report goes as preparing the builder goes. -/
theorem gives_collectAssets_of_ok (schema : Schema) {options : PluginOptions}
    (h : PluginOptions.resolve host = .ok options) {out : Option Path}
    {found : Except Failure Builder} {after : Tree}
    (hprepared : Work.Gives (preparedBuilder schema host (out.filter fun _ => options.enableAssets))
      tree found after) :
    Work.Gives (collectAssets schema host out) tree
      ((fun written => assetReport (Plugin.ofRenderer schema options written.renderer)) <$>
        found.mapError fun failure => (Trouble.ofFailure failure).during .createPlugin) after := by
  have hwants : wantsAssets host = options.enableAssets := by rw [wantsAssets, h]
  rw [collectAssets, hwants, createPluginWithAssets_eq]
  generalize preparedBuilder schema host _ = prepared at hprepared ⊢
  have hcreate : Plugin.create schema host (Builder.renderer <$> prepared) =
      (fun written => Plugin.ofRenderer schema options written.renderer) <$> prepared := by
    rw [Plugin.create, h]
    simp
  have hplugin := hprepared.map fun written =>
    (Plugin.ofRenderer schema options written.renderer : HtmlPlugin)
  have hreport := (hplugin.adapt fun failure =>
    (Trouble.ofFailure failure).during .createPlugin).map assetReport
  rw [hcreate]
  cases found <;> exact hreport

end Reporting

end SchemaPages.Command
