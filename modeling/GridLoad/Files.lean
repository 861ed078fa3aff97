import GridLoad.Text.Utf8

/-!
A tree of files and folders, as far as models and features are read from one. A folder lists its entries in
some order and names each once.
-/

set_option autoImplicit false

namespace GridLoad

inductive FileName where
  | text (name : String)
  | stray (bytes : List UInt8)
  deriving DecidableEq

def FileName.text? : FileName → Option String
  | .text name => some name
  | .stray _ => none

def FileName.shown : FileName → String
  | .text name => name
  | .stray bytes => Text.ofBytesLossy bytes

inductive Files where
  | file (content : List UInt8)
  | folder (entries : List (FileName × Files))

inductive FileError where
  | missing
  | notFolder
  | isFolder
  | tooLong
  | badName
  deriving DecidableEq

def FileError.message : FileError → String
  | .missing => "No such file or directory (os error 2)"
  | .notFolder => "Not a directory (os error 20)"
  | .isFolder => "Is a directory (os error 21)"
  | .tooLong => "File name too long (os error 36)"
  | .badName => "file name contained an unexpected NUL byte"

/-- A place in a tree as it is written: what the top of the tree is called, and the steps from there with
slashes between them. A step is a name, or two points for the folder above, or a point or nothing at all,
which both stay in the folder. A path with no top begins with a slash and leads out of the tree. -/
structure Path where
  top : String
  steps : List String
  deriving DecidableEq

namespace Path

def ofText (top text : String) : Path :=
  match text.splitOn "/" with
  | "" :: step :: steps => ⟨"", step :: steps⟩
  | steps => ⟨top, steps⟩

def text (p : Path) : String := "/".intercalate (p.top :: p.steps)

-- The path of an entry of a folder. A slash at the end of the folder's path is not doubled.
def child (p : Path) (name : String) : Path :=
  match p.steps.getLast? with
  | some "" => { p with steps := p.steps.dropLast ++ [name] }
  | _ => { p with steps := p.steps ++ [name] }

-- The names that are left when a path is followed from the top, as far as folders are where it says.
def names (text : String) : List String :=
  (text.splitOn "/").foldl (fun names step =>
    if step = "" || step = "." then names
    else if step = ".." then names.dropLast
    else names ++ [step]) []

-- The longest path, in bytes.
def greatestSize : Nat := 4095

-- The longest name in a folder, in bytes.
def greatestNameSize : Nat := 255

-- Why a path leads nowhere, whatever the files.
def fault? (p : Path) : Option FileError :=
  let text := p.text
  if text.contains '\x00' then some .badName
  else if greatestSize < text.utf8ByteSize then some .tooLong
  else none

end Path

namespace Files

def empty : Files := .folder []

instance : Inhabited Files := ⟨empty⟩

def find? (entries : List (FileName × Files)) (name : String) : Option Files :=
  (entries.find? fun e => e.1 = .text name).map (·.2)

-- Follows steps from a folder, given the folders above it, the nearest first. Only a folder can be stepped
-- from, also to stay in it. Of what is above the top nothing is known.
def follow : (above : List Files) → Files → List String → Except FileError Files
  | _, here, [] => .ok here
  | _, .file _, _ :: _ => .error .notFolder
  | above, .folder entries, step :: rest =>
      if step = "" || step = "." then follow above (.folder entries) rest
      else if step = ".." then
        match above with
        | parent :: above => follow above parent rest
        | [] => follow [] empty rest
      else if Path.greatestNameSize < step.utf8ByteSize then .error .tooLong
      else
        match find? entries step with
        | some below => follow (.folder entries :: above) below rest
        | none => .error .missing

def at? (files : Files) (names : List String) : Except FileError Files := follow [] files names

def locate? (files : Files) (p : Path) : Except FileError Files :=
  match p.fault? with
  | some e => .error e
  | none => follow [] (if p.top = "" then empty else files) p.steps

def read? (files : Files) (p : Path) : Except FileError (List UInt8) :=
  match files.locate? p with
  | .ok (.file content) => .ok content
  | .ok (.folder _) => .error .isFolder
  | .error e => .error e

def list? (files : Files) (p : Path) : Except FileError (List (FileName × Files)) :=
  match files.locate? p with
  | .ok (.folder entries) => .ok entries
  | .ok (.file _) => .error .notFolder
  | .error e => .error e

def setEntry (name : String) (value : Files) : List (FileName × Files) → List (FileName × Files)
  | [] => [(.text name, value)]
  | e :: rest => if e.1 = .text name then (e.1, value) :: rest else e :: setEntry name value rest

def put (value : Files) : List String → Files → Files
  | [], _ => value
  | name :: rest, .folder entries =>
      .folder (setEntry name (put value rest ((find? entries name).getD empty)) entries)
  | name :: rest, .file _ => .folder [(.text name, put value rest empty)]

def write (files : Files) (names : List String) (content : List UInt8) : Files :=
  put (.file content) names files

-- Makes a folder where there is nothing.
def makeFolder (files : Files) (names : List String) : Files :=
  match files.at? names with
  | .ok _ => files
  | .error _ => put empty names files

mutual
-- The file or folder and all that is below it, by the names that lead there.
def pathsBelow (files : Files) (names : List FileName) : List (List FileName) :=
  match files with
  | .file _ => [names]
  | .folder entries => entryPaths entries names ++ [names]
def entryPaths : List (FileName × Files) → List FileName → List (List FileName)
  | [], _ => []
  | (name, here) :: rest, names => pathsBelow here (names ++ [name]) ++ entryPaths rest names
end

def remove : List String → Files → Files
  | [name], .folder entries => .folder (entries.filter fun e => e.1 ≠ .text name)
  | name :: rest, .folder entries =>
      match find? entries name with
      | some below => .folder (setEntry name (remove rest below) entries)
      | none => .folder entries
  | _, files => files

end Files

end GridLoad
