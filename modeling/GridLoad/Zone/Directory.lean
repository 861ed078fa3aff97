import GridLoad.Digest.Sha256
import GridLoad.Model.Graph
import GridLoad.Model.Linear
import GridLoad.Zone.Registry

/-!
Zones from a model directory. Each subdirectory is a zone; it may hold a manifest, and for each variant a
model with a metadata sidecar. A registry is put together from the steps that each subdirectory gives. Whatever
fails a check is rejected with the reason and never repaired.
-/

set_option autoImplicit false

namespace GridLoad

def manifestName : String := "zone.json"

def sidecarName (v : Variant) : String := v.artifactStem ++ ".meta.json"

-- How models are stored, in the order in which they are looked for.
inductive ArtifactForm where
  | linear
  | graph
  deriving DecidableEq

namespace ArtifactForm

def all : List ArtifactForm := [.linear, .graph]

def extension : ArtifactForm → String
  | .linear => "json"
  | .graph => "onnx"

def fileName (f : ArtifactForm) (v : Variant) : String := v.artifactStem ++ "." ++ f.extension

def decode (f : ArtifactForm) (bytes : List UInt8) (metadata : Metadata) : Except String Model :=
  match f with
  | .linear => Linear.ofBytes bytes metadata
  | .graph => Graph.model bytes metadata

end ArtifactForm

structure Folder where
  place : Path
  entries : List (FileName × Files)

namespace Folder

def file? (f : Folder) (name : String) : Option (List UInt8) :=
  match Files.find? f.entries name with
  | some (.file content) => some content
  | _ => none

def pathText (f : Folder) (name : String) : String := (f.place.child name).text

end Folder

def checksum (bytes : List UInt8) : String := Digest.hex (Digest.sha256 bytes)

def lowerAscii (text : String) : String := String.ofList (text.toList.map Char.toLower)

def checkedModel (folder : Folder) (zone : String) (v : Variant) (form : ArtifactForm)
    (sidecar artifact : List UInt8) : Except String Model := do
  let artifactPath := folder.pathText (form.fileName v)
  let metadata ← match (Json.ofBytes? sidecar).bind Metadata.ofJson? with
    | some metadata => pure metadata
    | none => throw ("malformed metadata " ++ folder.pathText (sidecarName v) ++ ": " ++ unreadable)
  metadata.validate zone v
  match metadata.sha256 with
  | some expected =>
      let actual := checksum artifact
      if lowerAscii actual ≠ lowerAscii expected then
        throw ("checksum mismatch for " ++ artifactPath ++ ": expected " ++ expected ++ ", got " ++ actual)
  | none => pure ()
  match form.decode artifact metadata with
  | .ok model => pure model
  | .error reason => throw ("failed to deserialize " ++ artifactPath ++ ": " ++ reason)

-- The stored model of a variant, in the first form in which there is one.
def artifact? (folder : Folder) (v : Variant) : Option (ArtifactForm × List UInt8) :=
  ArtifactForm.all.findSome? fun form => (folder.file? (form.fileName v)).map (form, ·)

def variantHolding (folder : Folder) (zone : String) (v : Variant) : Holding :=
  match artifact? folder v, folder.file? (sidecarName v) with
  | none, none => .absent
  | none, some _ => .rejected "metadata present but artifact missing"
  | some (form, _), none =>
      .rejected ("artifact " ++ folder.pathText (form.fileName v) ++ " has no metadata sidecar")
  | some (form, artifact), some sidecar =>
      match checkedModel folder zone v form sidecar artifact with
      | .ok model => .loaded model
      | .error reason => .rejected reason

-- The zone's manifest; where there is none, the standard one.
def zoneManifest (folder : Folder) : Except String Manifest :=
  match folder.file? manifestName with
  | none => .ok {}
  | some content =>
      match (Json.ofBytes? content).bind Manifest.ofJson? with
      | none => .error ("malformed manifest " ++ folder.pathText manifestName ++ ": " ++ unreadable)
      | some manifest => manifest.weights.validate.map fun _ => manifest

-- The step that enters what is held for a variant. Of one that is absent only the zone shows.
def Holding.step (zone : String) (v : Variant) : Holding → Registry.Step
  | .absent => .touch zone
  | .rejected reason => .reject zone v reason
  | .loaded model => .model zone v model

-- The steps that enter a subdirectory. A manifest that cannot be read rejects both variants.
def folderSteps (zone : String) (folder : Folder) : List Registry.Step :=
  match zoneManifest folder with
  | .error reason => Variant.all.map fun v => .reject zone v ("zone manifest: " ++ reason)
  | .ok manifest =>
      .manifest zone manifest :: Variant.all.map fun v => (variantHolding folder zone v).step zone v

def zoneFolders (place : Path) (entries : List (FileName × Files)) : List (String × Folder) :=
  entries.filterMap fun e =>
    match e with
    | (.text name, .folder below) => some (name, ⟨place.child name, below⟩)
    | _ => none

-- What the subdirectories give, entered one after another as they are listed.
def zonesOf (place : Path) (entries : List (FileName × Files)) : Table String ZoneEntry :=
  ((zoneFolders place entries).flatMap fun z => folderSteps z.1 z.2).foldl Registry.apply .empty

/-- All zones of a model directory. Only a directory that cannot be listed fails. -/
def Registry.ofDirectory (files : Files) (root : Path) (generation : Nat) : Except String Registry :=
  match files.list? root with
  | .error e => .error ("Failed to read model directory " ++ root.text ++ ": " ++ e.message)
  | .ok entries => .ok { generation := generation, root := some root, zones := zonesOf root entries }

end GridLoad
