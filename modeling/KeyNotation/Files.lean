import KeyNotation.Error
import KeyNotation.Words

/-!
# Files

A tree of directories and files, and paths in it.

* `FileNode.walk here above path` — the node that `path` leads to from the node `here`, which lies
  in the directories `above`, the innermost first;
* `Files.find fs path`, `Files.has fs path`, `Files.read fs path` — the node at a path, whether there
  is one, and the text of a file there;
* `joinPath a b` — the path `b` taken from the directory `a`.
-/

namespace KeyNotation

inductive FileNode where
  | file (content : ByteArray)
  | dir (entries : List (Text × FileNode))

/-- A tree, and the names that lead from its root to where relative paths start. -/
structure Files where
  root : FileNode
  cwd : List Text

namespace FileNode

/-- Takes one step of a path. An empty segment stays where it is, and above the root is the root. -/
def step (here : FileNode) (above : List FileNode) (segment : Text) :
    Except FileFault (FileNode × List FileNode) :=
  match here with
  | file _ => .error .notDirectory
  | dir entries =>
    if segment = [] ∨ segment = ['.'] then .ok (here, above)
    else if segment = ['.', '.'] then
      match above with
      | [] => .ok (here, [])
      | up :: above => .ok (up, above)
    else
      match entries.lookup segment with
      | some next => .ok (next, here :: above)
      | none => .error .notFound

def walk (here : FileNode) (above : List FileNode) :
    List Text → Except FileFault (FileNode × List FileNode)
  | [] => .ok (here, above)
  | segment :: path =>
    match step here above segment with
    | .ok (here, above) => walk here above path
    | .error fault => .error fault

end FileNode

namespace Files

def find (fs : Files) (path : Text) : Except FileFault FileNode :=
  let start : Except FileFault (FileNode × List FileNode) :=
    if path.head? = some '/' then .ok (fs.root, []) else fs.root.walk [] fs.cwd
  if path = [] then .error .notFound
  else
    match start with
    | .error fault => .error fault
    | .ok (here, above) => (here.walk above (words ['/'] path)).map (·.1)

def has (fs : Files) (path : Text) : Bool := (fs.find path).toBool

def read (fs : Files) (path : Text) : Except FileFault Text :=
  match fs.find path with
  | .error fault => .error fault
  | .ok (.dir _) => .error .isDirectory
  | .ok (.file content) =>
    match String.fromUTF8? content with
    | some s => .ok s.toList
    | none => .error .notUtf8

end Files

/-- One slash stands between the two, and an absolute path starts from nowhere else. -/
def joinPath (a b : Text) : Text :=
  if b.head? = some '/' then b
  else if a = [] ∨ a.getLast? = some '/' then a ++ b
  else a ++ '/' :: b

end KeyNotation
