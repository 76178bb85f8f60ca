import KeyNotation.Files
import KeyNotation.Toggles.Settings

/-!
# Toggles from files

* `configPaths home xdg` — where a settings file is looked for, the first one first;
* `Toggles.load fs path` — the toggles of the file at `path`;
* `Toggles.discover fs paths` — the toggles of the first of the paths that there is.
-/

namespace KeyNotation

/-- The directory for settings is the one that is set, if its path is absolute, and otherwise the
usual one under the home directory. -/
def configDir (home : Text) (xdg : Option Text) : Text :=
  match xdg.filter (·.head? = some '/') with
  | some dir => dir
  | none => joinPath home ".config"

def configPaths (home : Text) (xdg : Option Text) : List Text :=
  ["sigil.toml", joinPath (joinPath (configDir home xdg) "sigil") "config.toml"]

namespace Toggles

def load (fs : Files) (path : Text) : Except KeyError Toggles :=
  match fs.read path with
  | .ok t => ofToml t
  | .error fault => .error (.file fault)

def discover (fs : Files) (paths : List Text) : Except KeyError Toggles :=
  match paths.find? fs.has with
  | some path => load fs path
  | none => .ok off

end Toggles

end KeyNotation
