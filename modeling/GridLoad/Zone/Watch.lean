import GridLoad.Zone.Directory

/-!
Watching a model directory. Changes of model files are collected until the directory has been quiet for a
while; then one signal names them all, each once and in the order in which they were first seen.
-/

set_option autoImplicit false

namespace GridLoad

def splitAt? (mark : List Char) : List Char → Option (List Char × List Char)
  | [] => if mark.isEmpty then some ([], []) else none
  | c :: rest =>
      if mark.isPrefixOf (c :: rest) then some ([], (c :: rest).drop mark.length)
      else (splitAt? mark rest).map fun r => (c :: r.1, r.2)

def isModelFile (name : String) : Bool :=
  name = manifestName ||
    (splitAt? "_model_current.".toList name.toList).any fun parts => !parts.1.isEmpty

-- The path of something that changed, as paths are compared: what the top is called and the names from there, of
-- which two points stand for the folder above.
structure ChangedPath where
  top : String
  names : List FileName
  deriving DecidableEq

namespace ChangedPath

def text (p : ChangedPath) : String := "/".intercalate (p.top :: p.names.map FileName.shown)

-- The last name, if it is a text and leads down.
def fileName? (p : ChangedPath) : Option String :=
  (p.names.getLast?.bind FileName.text?).filter (· ≠ "..")

def isModelFile (p : ChangedPath) : Bool := p.fileName?.any GridLoad.isModelFile

end ChangedPath

-- The path as it is told when something changes there. Steps that stay in a folder are left out.
def Path.changed (p : Path) : ChangedPath :=
  ⟨p.top, (p.steps.filter fun step => step ≠ "" && step ≠ ".").map .text⟩

inductive ChangeKind where
  | created
  | modified
  | removed
  | accessed
  -- Of no kind that the system tells.
  | unspecified
  -- Of a kind that has no name here.
  | other
  deriving DecidableEq

def ChangeKind.isRelevant : ChangeKind → Bool
  | .created => true
  | .modified => true
  | .removed => true
  | _ => false

inductive Notice where
  | change (kind : ChangeKind) (paths : List ChangedPath)
  | quiet
  -- Nobody receives signals from now on.
  | deserted
  | closed
  deriving DecidableEq

structure Watcher where
  -- Changed model files that no signal has named yet.
  pending : List ChangedPath := []
  signals : List (List ChangedPath) := []
  isHeard : Bool := true
  isOpen : Bool := true
  deriving DecidableEq

namespace Watcher

def collect (pending : List ChangedPath) (p : ChangedPath) : List ChangedPath :=
  if p.isModelFile && !pending.contains p then pending ++ [p] else pending

-- Names what is pending in a signal, if there is anything. A watcher whose signal nobody receives ends.
def signal (w : Watcher) : Watcher :=
  if w.pending.isEmpty then w
  else if w.isHeard then { w with pending := [], signals := w.signals ++ [w.pending] }
  else { w with pending := [], isOpen := false }

/-- Takes notice of something, unless the watcher has ended. -/
def step (w : Watcher) (n : Notice) : Watcher :=
  if !w.isOpen then w
  else
    match n with
    | .change kind paths =>
        if kind.isRelevant then { w with pending := paths.foldl collect w.pending } else w
    | .quiet => w.signal
    | .deserted => { w with isHeard := false }
    | .closed => { w with isOpen := false }

def run (notices : List Notice) : Watcher := notices.foldl step {}

def named (w : Watcher) : List ChangedPath := w.signals.flatten

end Watcher

inductive FileAction where
  | write (names : List String) (content : List UInt8)
  | remove (names : List String)
  | read (names : List String)
  | rename (source target : List String)

namespace FileAction

def apply (files : Files) : FileAction → Files
  | .write names content => files.write names content
  | .remove names => files.remove names
  | .read _ => files
  | .rename source target =>
      match files.at? source with
      | .ok moved => Files.put moved target (files.remove source)
      | .error _ => files

-- Notices of an action. A folder that is removed takes all below it along.
def notices (top : String) (files : Files) : FileAction → List Notice
  | .write names _ =>
      let kind := if (files.at? names).toOption.isSome then .modified else .created
      [.change kind [(Path.mk top names).changed]]
  | .remove names =>
      match files.at? names with
      | .ok here => (here.pathsBelow (names.map .text)).map fun names => .change .removed [⟨top, names⟩]
      | .error _ => []
  | .read names => [.change .accessed [(Path.mk top names).changed]]
  | .rename source target =>
      match files.at? source with
      | .ok _ =>
          [.change .modified [(Path.mk top source).changed], .change .modified [(Path.mk top target).changed]]
      | .error _ => []

end FileAction

def noticesOf (top : String) : Files → List FileAction → List Notice
  | _, [] => []
  | files, a :: rest => a.notices top files ++ noticesOf top (a.apply files) rest

def watch (files : Files) (root : Path) (actions : List FileAction) : Except String Watcher :=
  match files.locate? root with
  | .error _ => .error ("Failed to watch " ++ root.text ++ ": " ++ unreadable)
  | .ok _ => .ok (Watcher.run (noticesOf root.top files actions ++ [.quiet]))

end GridLoad
