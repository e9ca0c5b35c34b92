import SchemaPages.Command.Run
import SchemaPages.Proofs.Files.Work

/-!
How a run ends. A run goes through stages, each of which may fail; the first that fails decides the
exit status, and only a run in which none fails prints a report. What it means for a stage to fail
is said of the command line and the files alone. `Ends` follows a result through its stages, with
`Ends.bind` to go from some stages to the next.
-/

namespace SchemaPages.Command

open Files (Path Tree FileError Work Storage)
open Introspection (Schema)
open Json (Value)
open Options (HostOptions PluginOptions Overrides)
open Page (Plugin)
open Report (Format)

/-! ### The stages -/

/-- The stages that can end a run. -/
inductive Stage where
  /-- The format is known. -/
  | format
  /-- The schema file is read. -/
  | readSchema
  /-- Its text is taken as a schema. -/
  | parseSchema
  /-- The configuration file is read. -/
  | readConfig
  /-- Its text is taken as options of the host. -/
  | parseConfig
  /-- The options of the plugin are taken from those of the host. -/
  | options
  /-- The stylesheet is written. -/
  | stylesheet
deriving DecidableEq

namespace Stage

/-- The exit code of a run that a stage ends: 1 if a file is the trouble, 2 if it is what was
given. -/
def code : Stage → Nat
  | .readSchema | .readConfig | .stylesheet => 1
  | .format | .parseSchema | .parseConfig | .options => 2

end Stage

namespace Request

def schemaPath : Request → Path
  | .list schema | .render schema _ _ _ | .assets schema _ _ _ => schema

/-- The configuration file, for the commands that have options. -/
def config? : Request → Option Path
  | .list _ => none
  | .render _ _ config _ | .assets _ config _ _ => config

/-- What the command line sets over the configuration, for the commands that have options. -/
def overrides? : Request → Option Overrides
  | .list _ => none
  | .render _ _ _ overrides => some overrides
  | .assets _ _ noAssets _ => some ⟨none, noAssets⟩

def out? : Request → Option Path
  | .assets _ _ _ out => out
  | _ => none

end Request

def HoldsSchema (tree : Tree) (path : Path) (schema : Schema) : Prop :=
  ∃ text, tree.readText path = .ok text ∧ Schema.ofText text = .ok schema

/-- The text holds a value, as TOML if the file has the extension `toml` and as JSON otherwise. -/
def HoldsValue (path : Path) (text : String) (v : Value) : Prop :=
  if path.extension? = some "toml" then Toml.read text = some v else Json.read text = .ok v

/-- The value gives the options of a host: an object does, and null stands for none at all. -/
inductive GivesHost : Value → HostOptions → Prop
  | object (members : Json.Members) : GivesHost (.obj members) ⟨members⟩
  | null : GivesHost .null {}

/-- The options that a configuration file holds, none if there is no file. -/
inductive HoldsHost (tree : Tree) : Option Path → HostOptions → Prop
  | absent : HoldsHost tree none {}
  | file {path : Path} {text : String} {v : Value} {host : HostOptions} :
      tree.readText path = .ok text → HoldsValue path text v → GivesHost v host →
        HoldsHost tree (some path) host

/-- The options of the host with what the command line sets, for a command that has options. -/
def HasHost (request : Request) (tree : Tree) (host : HostOptions) : Prop :=
  ∃ overrides base, request.overrides? = some overrides ∧
    HoldsHost tree request.config? base ∧ host = overrides.apply base

def writeStylesheet (directory : Path) : Work FileError Unit := do
  Work.createDirectory directory
  Work.write (directory.join Html.stylesheetName) Html.stylesheet.toUTF8

def Stage.Fails (line : Line) (tree : Tree) : Stage → Prop
  | .format => ∀ format : Format, Text.lowerCase line.format ≠ format.name
  | .readSchema => ∃ error, tree.readText line.request.schemaPath = .error error
  | .parseSchema =>
    ∃ text failure, tree.readText line.request.schemaPath = .ok text ∧
      Schema.ofText text = .error failure
  | .readConfig =>
    ∃ path error, line.request.config? = some path ∧ tree.readText path = .error error
  | .parseConfig =>
    ∃ path text, line.request.config? = some path ∧ tree.readText path = .ok text ∧
      ∀ v, HoldsValue path text v → ∀ host, ¬GivesHost v host
  | .options =>
    ∃ host failure, HasHost line.request tree host ∧ PluginOptions.resolve host = .error failure
  | .stylesheet =>
    ∃ host options directory error, HasHost line.request tree host ∧
      PluginOptions.resolve host = .ok options ∧ options.enableAssets = true ∧
        line.request.out? = some directory ∧
          Work.result tree (writeStylesheet directory) = .error error

/-- The value is a report that the request can be answered with. -/
inductive Reports (tree : Tree) : Request → Value → Prop
  | list {path : Path} {schema : Schema} {entities : Report.EntityList} :
      HoldsSchema tree path schema → listEntities schema = .ok entities →
        Reports tree (.list path) entities.encode
  | render {path : Path} {names : List String} {config : Option Path} {overrides : Overrides}
      {schema : Schema} {host : HostOptions} {rendered : List Report.RenderedEntity} :
      HoldsSchema tree path schema → HasHost (.render path names config overrides) tree host →
        renderNames schema host names = .ok rendered →
          Reports tree (.render path names config overrides) (Report.encodeRendered rendered)
  | assets {path : Path} {config : Option Path} {noAssets : Bool} {out : Option Path}
      {schema : Schema} {host : HostOptions} {report : Report.AssetReport} :
      HoldsSchema tree path schema → HasHost (.assets path config noAssets out) tree host →
        Work.result tree (collectAssets schema host out) = .ok report →
          Reports tree (.assets path config noAssets out) report.encode

/-- The first of the stages that fails, if any does. -/
inductive FirstFailure (fails : Stage → Prop) : List Stage → Option Stage → Prop
  | none : FirstFailure fails [] none
  | here {stage : Stage} {rest : List Stage} :
      fails stage → FirstFailure fails (stage :: rest) (some stage)
  | later {stage : Stage} {rest : List Stage} {first : Option Stage} :
      ¬fails stage → FirstFailure fails rest first → FirstFailure fails (stage :: rest) first

namespace FirstFailure

variable {fails : Stage → Prop} {stages others : List Stage} {stage : Stage}
variable {first second : Option Stage}

theorem append_some (h : FirstFailure fails stages (some stage)) (others : List Stage) :
    FirstFailure fails (stages ++ others) (some stage) := by
  generalize hfirst : some stage = first at h
  induction h with
  | none => cases hfirst
  | here hfails => exact hfirst ▸ .here hfails
  | later hnot _ ih => exact .later hnot (ih hfirst)

theorem append_none (h : FirstFailure fails stages .none)
    (h' : FirstFailure fails others first) : FirstFailure fails (stages ++ others) first := by
  generalize hnone : Option.none = second at h
  induction h with
  | none => exact h'
  | here _ => cases hnone
  | later hnot _ ih => exact .later hnot (ih hnone)

end FirstFailure

/-! ### Following a result through its stages -/

section Ends

variable {line : Line} {tree : Tree} {stages others : List Stage} {α β : Type}

/-- The first of the stages that fails decides the code of the trouble; if none fails the result is
a good one. -/
def Ends (line : Line) (tree : Tree) (stages : List Stage) (result : Except Trouble α)
    (good : α → Prop) : Prop :=
  ∃ first, FirstFailure (Stage.Fails line tree) stages first ∧
    match first, result with
    | some stage, .error trouble => (ExitStatus.ofTrouble trouble).code = stage.code
    | none, .ok a => good a
    | _, _ => False

theorem Ends.stop {trouble : Trouble} {stage : Stage} {good : α → Prop}
    (hfails : stage.Fails line tree)
    (hcode : (ExitStatus.ofTrouble trouble).code = stage.code) :
    Ends line tree (stage :: stages) (.error trouble) good :=
  ⟨some stage, .here hfails, hcode⟩

theorem Ends.done {a : α} {good : α → Prop} (h : good a) : Ends line tree [] (.ok a) good :=
  ⟨none, .none, h⟩

theorem Ends.passed {a : α} {good : α → Prop} (h : Ends line tree stages (.ok a) good) :
    FirstFailure (Stage.Fails line tree) stages none := by
  obtain ⟨first, hfirst, hresult⟩ := h
  cases first with
  | none => exact hfirst
  | some stage => exact hresult.elim

theorem Ends.map {result : Except Trouble α} {f : α → β} {good : α → Prop} {better : β → Prop}
    (h : Ends line tree stages result good) (hbetter : ∀ a, good a → better (f a)) :
    Ends line tree stages (f <$> result) better := by
  obtain ⟨first, hfirst, hresult⟩ := h
  refine ⟨first, hfirst, ?_⟩
  cases first <;> cases result
  · exact hresult
  · exact hbetter _ hresult
  · exact hresult
  · exact hresult

theorem Ends.bind {result : Except Trouble α} {next : α → Except Trouble β}
    {good : α → Prop} {better : β → Prop} (h : Ends line tree stages result good)
    (hnext : ∀ a, good a → Ends line tree others (next a) better) :
    Ends line tree (stages ++ others) (result >>= next) better := by
  obtain ⟨first, hfirst, hresult⟩ := h
  cases first with
  | none =>
      cases result with
      | error trouble => exact hresult.elim
      | ok a =>
          obtain ⟨second, hsecond, hbetter⟩ := hnext a hresult
          exact ⟨second, hfirst.append_none hsecond, hbetter⟩
  | some stage =>
      cases result with
      | error trouble => exact ⟨some stage, hfirst.append_some others, hresult⟩
      | ok a => exact hresult.elim

end Ends

end SchemaPages.Command
