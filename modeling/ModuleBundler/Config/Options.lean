import ModuleBundler.Config.Record
import ModuleBundler.FileStore.Basic
import ModuleBundler.Options.Basic

/-!
# Options from a configuration file

A configuration file holds one record with the optional fields `entry`, `cwd` and `output`; the
last is itself a record with the optional fields `path` and `filename`.
-/

namespace ModuleBundler.Config

/-- A field that may hold a text, and how a layer is given it. -/
def textField {α : Type} (wanted : String) (set : Option String → α → α) : Reader (α → α) := do
  pure (set (← Reader.optional (Reader.text wanted)))

/-- The record of output fields. -/
def outputShape : Shape OutputLayer where
  name := "OutputOptions"
  blank := ⟨none, none⟩
  fields :=
    [("path", textField "a string" fun value layer => { layer with directory := value }),
      ("filename", textField "a string" fun value layer => { layer with fileName := value })]

/-- The record of all fields. -/
def layerShape : Shape OptionLayer where
  name := "BundlerOptions"
  blank := OptionLayer.empty
  fields :=
    [("entry", textField "a string" fun value layer => { layer with entry := value }),
      ("cwd", textField "path string" fun value layer => { layer with cwd := value.map .mk }),
      ("output", do
        let value ← Reader.optional outputShape.read
        pure fun layer => { layer with output := value })]

/-- A whole configuration text. -/
def wholeText : Reader OptionLayer := do
  let layer ← layerShape.read
  match ← Reader.peekPastBlanks? with
  | none => pure layer
  | some _ => Reader.failAhead .trailingText

/-- **Read a layer of options** from a configuration text. -/
def ofText (text : String) : Except Fault OptionLayer :=
  match wholeText (.start text) with
  | .ok layer _ => .ok layer
  | .error fault _ => .error fault

/-- **Load a configuration file.**  A relative path is read from `current`. -/
def load {σ : Type} [FileStore σ] (current : Path) (store : σ) (path : Path) :
    Except BuildErrors OptionLayer :=
  match FileStore.read store (current.join path) with
  | .error cause => .error [.config path cause.message]
  | .ok text =>
      match ofText text with
      | .ok layer => .ok layer
      | .error fault => .error [.config path fault.message]

/-- **The options of a run**: the flags over the configuration file, if one is named. -/
def resolve {σ : Type} [FileStore σ] (current : Path) (store : σ) (config : Option Path)
    (flags : OptionLayer) : Except BuildErrors OptionLayer :=
  match config with
  | none => .ok (OptionLayer.empty.merge flags)
  | some path => (load current store path).map (·.merge flags)

end ModuleBundler.Config
