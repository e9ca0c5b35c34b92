import SchemaPages.Proofs.Command.Progress
import SchemaPages.Proofs.Files.Writing

/-!
Collecting the assets, with what becomes of the files. Nothing is written unless the options
resolve, assets are enabled and a directory is given; then the stylesheet is stored there, or no
file is touched at all.
-/

namespace SchemaPages.Command

open Files (Path Tree FileError Work)
open Introspection (Schema)
open Options (HostOptions PluginOptions Context pluginKey resolve_eq_error)
open Page (Plugin)
open Report (AssetReport disabledNotice)

def stylesheetLink (baseUrl : String) : String :=
  "<link type=\"text/css\" rel=\"stylesheet\" href=\"" ++
    Html.escape (baseUrl ++ "assets/" ++ Html.stylesheetName) ++ "\" />"

def enabledReport (host : HostOptions) (assets : List String) : AssetReport where
  enabled := true
  headers := [Html.fontHeader, stylesheetLink (Context.ofHost host).baseUrl]
  assets := assets
  notice := none

def disabledReport : AssetReport where
  enabled := false
  headers := []
  assets := []
  notice := some disabledNotice

/-- What comes of the stylesheet in a directory: it is stored and reported, or else it is told what
could not be written, and all that is new are directories on the way. -/
def StoresStylesheet (host : HostOptions) (directory : Path) (tree : Tree)
    (result : Except Trouble AssetReport) (after : Tree) : Prop :=
  match Work.result tree (writeStylesheet directory) with
  | .ok () =>
    result = .ok (enabledReport host [directory.join Html.stylesheetName]) ∧
      Files.Stored directory Html.stylesheetName Html.stylesheet.toUTF8 tree after
  | .error error =>
    (∃ path, (path = directory ∨ path = directory.join Html.stylesheetName) ∧
      result = .error ⟨[.createPlugin], .failed (.asset path error)⟩) ∧
      Tree.Grows (tree.start directory) directory.names tree after

theorem isPart_stylesheetName : Path.IsPart Html.stylesheetName where
  ne_empty := by decide
  no_slash := by decide

theorem isEntryName_stylesheetName : Tree.IsEntryName Html.stylesheetName where
  ne_here := by decide
  ne_up := by decide
  size_le := by decide

theorem assetReport_ofRenderer (schema : Schema) (host : HostOptions) (options : PluginOptions)
    (assets : List String) :
    assetReport (Plugin.ofRenderer schema options
        { builder schema host with assets := assets }.renderer) =
      if options.enableAssets then enabledReport host assets else disabledReport := by
  cases h : options.enableAssets <;> simp only [assetReport, Plugin.headers?, Plugin.assets?,
    Plugin.ofRenderer, h] <;> rfl

/-- Where assets are enabled and a directory is given, the report follows what becomes of the
stylesheet. -/
theorem gives_collectAssets_written (schema : Schema) {host : HostOptions}
    {options : PluginOptions} (hoptions : PluginOptions.resolve host = .ok options)
    (henabled : options.enableAssets = true) (directory : Path) (tree : Tree) :
    ∃ result after, Work.Gives (collectAssets schema host (some directory)) tree result after ∧
      StoresStylesheet host directory tree result after := by
  have hcollect := @gives_collectAssets_of_ok tree host schema options hoptions (some directory)
  have hfilter : (some directory).filter (fun _ => options.enableAssets) = some directory := by
    simp [henabled]
  rw [hfilter] at hcollect
  obtain ⟨found, after, hwrite, hprepared⟩ := gives_writeAssets tree (builder schema host) directory
  obtain ⟨stored, last, hstore, hstored⟩ := Files.gives_store isPart_stylesheetName
    isEntryName_stylesheetName tree Html.stylesheet.toUTF8
  obtain ⟨rfl, rfl⟩ : found = stored ∧ after = last := Prod.mk.inj (hwrite.symm.trans hstore)
  simp only [StoresStylesheet, hwrite.result_eq]
  cases found with
  | error error =>
      obtain ⟨path, hpath, hprepared⟩ := hprepared
      exact ⟨_, after, hcollect hprepared, ⟨path, hpath, rfl⟩, hstored⟩
  | ok _ =>
      refine ⟨_, after, hcollect hprepared, ?_, hstored⟩
      change Except.ok (assetReport _) = _
      rw [assetReport_ofRenderer, if_pos henabled]

/-- Collecting the assets touches the files only where the options resolve, assets are enabled and
a directory is given. -/
theorem collectAssets_files (schema : Schema) (host : HostOptions) (out : Option Path)
    (tree : Tree) :
    ∃ result after, Work.Gives (collectAssets schema host out) tree result after ∧
      match PluginOptions.resolve host with
      | .error failure =>
        (∃ error, failure = .invalidOptions pluginKey error) ∧
          result = .error ⟨[.createPlugin], .failed failure⟩ ∧ after = tree
      | .ok options =>
        match options.enableAssets, out with
        | false, _ => result = .ok disabledReport ∧ after = tree
        | true, none => result = .ok (enabledReport host []) ∧ after = tree
        | true, some directory => StoresStylesheet host directory tree result after := by
  cases hoptions : PluginOptions.resolve host with
  | error failure =>
      exact ⟨_, tree, gives_collectAssets_of_error tree schema hoptions out,
        resolve_eq_error hoptions, rfl, rfl⟩
  | ok options =>
      have hunwritten : out.filter (fun _ => options.enableAssets) = none →
          Work.Gives (collectAssets schema host out) tree
            (.ok (if options.enableAssets then enabledReport host [] else disabledReport))
            tree := by
        intro hfilter
        have hcollect := @gives_collectAssets_of_ok tree host schema options hoptions out
        rw [hfilter] at hcollect
        rw [← assetReport_ofRenderer schema host options []]
        exact hcollect (.ofExcept (.ok (builder schema host)))
      cases henabled : options.enableAssets with
      | false => exact ⟨_, tree, hunwritten (by simp [henabled]), by simp [henabled]⟩
      | true =>
          cases out with
          | none => exact ⟨_, tree, hunwritten rfl, by simp [henabled]⟩
          | some directory =>
              simp only [henabled]
              exact gives_collectAssets_written schema hoptions henabled directory tree

end SchemaPages.Command
