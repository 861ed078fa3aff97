import GridLoad.Proofs.Table
import GridLoad.Zone.Directory

/-!
Loading a model directory one subdirectory at a time. The steps of a subdirectory concern its own zone, so what they
come to there does not depend on the others, nor on the order in which a directory happens to be listed.
-/

set_option autoImplicit false

namespace GridLoad

namespace Registry

variable {t u : Table String ZoneEntry} {zone : String} {steps : List Step}

theorem get_apply_own (t : Table String ZoneEntry) (step : Step) :
    (apply t step).get? step.zone = some (step.change ((t.get? step.zone).getD {})) :=
  Table.get_insert_self _ _ _

theorem get_apply_other {step : Step} (different : step.zone ≠ zone) : (apply t step).get? zone = t.get? zone :=
  Table.get_insert_other _ _ _ _ different.symm

theorem get_steps_elsewhere (elsewhere : ∀ step ∈ steps, step.zone ≠ zone) :
    (steps.foldl apply t).get? zone = t.get? zone := by
  induction steps generalizing t with
  | nil => rfl
  | cons step rest ih =>
      rw [List.forall_mem_cons] at elsewhere
      exact (ih elsewhere.2).trans (get_apply_other elsewhere.1)

-- Steps for one zone make of its entry what they make of it one after another.
theorem get_steps_within (within : ∀ step ∈ steps, step.zone = zone) (some_step : steps ≠ []) :
    (steps.foldl apply t).get? zone = some (steps.foldl (fun e step => step.change e) ((t.get? zone).getD {})) := by
  induction steps generalizing t with
  | nil => exact absurd rfl some_step
  | cons step rest ih =>
      obtain ⟨rfl, within⟩ := List.forall_mem_cons.mp within
      have here := get_apply_own t step
      by_cases last : rest = []
      · subst last
        exact here
      · rw [List.foldl_cons, ih within last, here]
        rfl

-- For a zone only its own steps count.
theorem get_steps_only (steps : List Step) (same : t.get? zone = u.get? zone) :
    (steps.foldl apply t).get? zone = ((steps.filter (·.zone = zone)).foldl apply u).get? zone := by
  induction steps generalizing t u with
  | nil => exact same
  | cons step rest ih =>
      by_cases here : step.zone = zone
      · rw [List.filter_cons_of_pos (by simpa using here)]
        subst here
        exact ih (by rw [get_apply_own, get_apply_own, same])
      · rw [List.filter_cons_of_neg (by simpa using here)]
        exact ih ((get_apply_other here).trans same)

end Registry

-- What the files of a subdirectory come to.
def zoneEntry (folder : Folder) (zone : String) : ZoneEntry :=
  match zoneManifest folder with
  | .error reason =>
      let holding := .rejected ("zone manifest: " ++ reason)
      { baseline := holding, enhanced := holding }
  | .ok manifest =>
      { manifest := manifest
        baseline := variantHolding folder zone .baseline
        enhanced := variantHolding folder zone .enhanced }

section Folders

variable {zone : String} {folder : Folder} {v : Variant}

theorem holding_step_zone (h : Holding) : (h.step zone v).zone = zone := by
  cases h <;> rfl

theorem folder_steps_zone : ∀ step ∈ folderSteps zone folder, step.zone = zone := by
  unfold folderSteps
  cases zoneManifest folder with
  | error reason =>
      intro step member
      obtain ⟨_, _, rfl⟩ := List.mem_map.mp member
      rfl
  | ok manifest =>
      refine List.forall_mem_cons.mpr ⟨rfl, fun step member => ?_⟩
      obtain ⟨_, _, rfl⟩ := List.mem_map.mp member
      exact holding_step_zone _

theorem folder_steps_some : folderSteps zone folder ≠ [] := by
  unfold folderSteps
  cases zoneManifest folder <;> nofun

-- An absent variant leaves the entry as it is, which is right as long as nothing was entered before.
theorem holding_step_change {e : ZoneEntry} (h : Holding) (vacant : e.holding v = .absent) :
    (h.step zone v).change e = e.set v h := by
  cases h with
  | absent =>
      obtain ⟨_, baseline, enhanced⟩ := e
      cases v <;> cases vacant <;> rfl
  | rejected reason => rfl
  | loaded model => rfl

theorem folder_steps_entry :
    (folderSteps zone folder).foldl (fun e step => step.change e) {} = zoneEntry folder zone := by
  unfold folderSteps zoneEntry
  cases zoneManifest folder with
  | error reason => rfl
  | ok manifest =>
      let declared : ZoneEntry := { manifest := manifest }
      let first := declared.set .baseline (variantHolding folder zone .baseline)
      have baseline : ((variantHolding folder zone .baseline).step zone .baseline).change declared = first :=
        holding_step_change _ rfl
      have enhanced : ((variantHolding folder zone .enhanced).step zone .enhanced).change first =
          first.set .enhanced (variantHolding folder zone .enhanced) := holding_step_change _ rfl
      change ((variantHolding folder zone .enhanced).step zone .enhanced).change
        (((variantHolding folder zone .baseline).step zone .baseline).change declared) = _
      rw [baseline, enhanced]
      rfl

theorem own_steps (folders : List (String × Folder)) :
    (folders.flatMap fun z => folderSteps z.1 z.2).filter (·.zone = zone) =
      (folders.filter (·.1 = zone)).flatMap fun z => folderSteps z.1 z.2 := by
  induction folders with
  | nil => rfl
  | cons z rest ih =>
      rw [List.flatMap_cons, List.filter_append, ih]
      by_cases here : z.1 = zone
      · rw [List.filter_cons_of_pos (by simpa using here), List.flatMap_cons, List.filter_eq_self.mpr]
        exact fun step member => by simpa [folder_steps_zone step member] using here
      · rw [List.filter_cons_of_neg (by simpa using here), List.filter_eq_nil_iff.mpr, List.nil_append]
        exact fun step member => by simpa [folder_steps_zone step member] using here

-- What is held for a zone is read from the subdirectories of that name alone.
theorem directory_entry (zone : String) {place : Path} {entries others : List (FileName × Files)}
    (same : (zoneFolders place entries).filter (·.1 = zone) = (zoneFolders place others).filter (·.1 = zone)) :
    (zonesOf place entries).get? zone = (zonesOf place others).get? zone := by
  unfold zonesOf
  rw [Registry.get_steps_only _ rfl, own_steps, same, ← own_steps, ← Registry.get_steps_only _ rfl]

end Folders

section Listings

variable {place : Path} {entries others : List (FileName × Files)} {zone : String} {below below' : List (FileName × Files)}
  {folder : Folder}

theorem mem_zone_folders : (zone, folder) ∈ zoneFolders place entries ↔
    ∃ below, (.text zone, .folder below) ∈ entries ∧ folder = ⟨place.child zone, below⟩ := by
  unfold zoneFolders
  rw [List.mem_filterMap]
  constructor
  · rintro ⟨⟨name, here⟩, member, is⟩
    cases name with
    | stray bytes => cases is
    | text name =>
        cases here with
        | file content => cases is
        | folder below =>
            cases is
            exact ⟨below, member, rfl⟩
  · rintro ⟨below, member, rfl⟩
    exact ⟨_, member, rfl⟩

theorem zone_steps_elsewhere (unlisted : ∀ below, (.text zone, .folder below) ∉ entries) :
    ∀ step ∈ (zoneFolders place entries).flatMap fun z => folderSteps z.1 z.2, step.zone ≠ zone := by
  intro step member
  obtain ⟨⟨name, folder⟩, listed, made⟩ := List.mem_flatMap.mp member
  rw [folder_steps_zone step made]
  rintro rfl
  obtain ⟨below, there, _⟩ := mem_zone_folders.mp listed
  exact unlisted below there

theorem zones_missing (unlisted : ∀ below, (.text zone, .folder below) ∉ entries) :
    (zonesOf place entries).get? zone = none := by
  unfold zonesOf
  exact Registry.get_steps_elsewhere (zone_steps_elsewhere unlisted)

-- A folder names each of its entries once.
def NamedOnce (entries : List (FileName × Files)) : Prop := (entries.map (·.1)).Nodup

instance : Decidable (NamedOnce entries) := inferInstanceAs (Decidable (List.Nodup _))

-- The steps before those of the subdirectory and the steps after them concern other zones.
theorem zones_present (once : NamedOnce entries) (listed : (.text zone, .folder below) ∈ entries) :
    (zonesOf place entries).get? zone = some (zoneEntry ⟨place.child zone, below⟩ zone) := by
  obtain ⟨before, after, rfl⟩ := List.append_of_mem listed
  obtain ⟨once, distinct⟩ : (∀ e ∈ before, e.1 ≠ .text zone) ∧ (∀ e ∈ after, e.1 ≠ .text zone) := by
    unfold NamedOnce at once
    rw [List.map_append, List.map_cons, List.nodup_append, List.nodup_cons] at once
    obtain ⟨_, ⟨later, _⟩, apart⟩ := once
    exact ⟨fun e member => apart _ (List.mem_map_of_mem member) _ List.mem_cons_self,
      fun e member same => later (List.mem_map.mpr ⟨e, member, same⟩)⟩
  have earlier : ∀ below, (.text zone, .folder below) ∉ before := fun _ member => once _ member rfl
  have later : ∀ below, (.text zone, .folder below) ∉ after := fun _ member => distinct _ member rfl
  have split : zoneFolders place (before ++ (.text zone, .folder below) :: after) =
      zoneFolders place before ++ (zone, ⟨place.child zone, below⟩) :: zoneFolders place after := by
    simp only [zoneFolders, List.filterMap_append, List.filterMap_cons]
  unfold zonesOf
  rw [split, List.flatMap_append, List.flatMap_cons, List.foldl_append, List.foldl_append,
    Registry.get_steps_elsewhere (zone_steps_elsewhere later),
    Registry.get_steps_within folder_steps_zone folder_steps_some,
    Registry.get_steps_elsewhere (zone_steps_elsewhere earlier)]
  exact congrArg some folder_steps_entry

-- A zone that is listed has a single subdirectory.
theorem get_zones (once : NamedOnce entries) {e : ZoneEntry} : (zonesOf place entries).get? zone = some e ↔
    ∃ below, (.text zone, .folder below) ∈ entries ∧ e = zoneEntry ⟨place.child zone, below⟩ zone := by
  by_cases listed : ∃ below, (.text zone, .folder below) ∈ entries
  · obtain ⟨below, member⟩ := listed
    constructor
    · intro held
      exact ⟨below, member, Option.some.inj (held.symm.trans (zones_present once member))⟩
    · rintro ⟨_, member', rfl⟩
      exact zones_present once member'
  · rw [zones_missing fun below member => listed ⟨below, member⟩]
    exact ⟨nofun, fun ⟨below, member, _⟩ => absurd ⟨below, member⟩ listed⟩

end Listings

-- The files that a variant is read from.
def variantFiles (v : Variant) : List String := sidecarName v :: ArtifactForm.all.map (·.fileName v)

-- The files that a zone is read from.
def zoneFiles : List String := manifestName :: Variant.all.flatMap variantFiles

example : zoneFiles =
    ["zone.json", "baseline_model_current.meta.json", "baseline_model_current.json", "baseline_model_current.onnx",
      "enhanced_model_current.meta.json", "enhanced_model_current.json", "enhanced_model_current.onnx"] := rfl

-- Folders in one place, with the same files of these names.
structure Folder.SameFiles (names : List String) (f g : Folder) : Prop where
  place : f.place = g.place
  files : ∀ name ∈ names, f.file? name = g.file? name

section Reading

variable {f g : Folder} {zone : String} {v : Variant}

theorem Folder.SameFiles.of_subset {names others : List String} (same : f.SameFiles others g) (among : names ⊆ others) :
    f.SameFiles names g :=
  ⟨same.place, fun name member => same.files name (among member)⟩

theorem variant_files_subset (v : Variant) : variantFiles v ⊆ zoneFiles := by
  intro name member
  have listed : v ∈ Variant.all := by cases v <;> decide
  exact List.mem_cons_of_mem _ (List.mem_flatMap.mpr ⟨v, listed, member⟩)

theorem path_text_same (place : f.place = g.place) : f.pathText = g.pathText :=
  congrArg (fun place : Path => fun name => (place.child name).text) place

theorem checked_model_same (texts : f.pathText = g.pathText) : checkedModel f zone v = checkedModel g zone v := by
  unfold checkedModel
  rw [texts]

theorem variant_holding_same (same : f.SameFiles (variantFiles v) g) : variantHolding f zone v = variantHolding g zone v := by
  have sidecar : f.file? (sidecarName v) = g.file? (sidecarName v) := same.files _ List.mem_cons_self
  have stored : ∀ form ∈ ArtifactForm.all, f.file? (form.fileName v) = g.file? (form.fileName v) :=
    fun form member => same.files _ (List.mem_cons_of_mem _ (List.mem_map_of_mem member))
  have artifact : artifact? f v = artifact? g v := by
    simp only [ArtifactForm.all, List.forall_mem_cons] at stored
    simp only [artifact?, ArtifactForm.all, List.findSome?, stored]
  have texts := path_text_same same.place
  unfold variantHolding
  rw [artifact, sidecar, texts, checked_model_same texts]

theorem zone_manifest_same (same : f.SameFiles zoneFiles g) : zoneManifest f = zoneManifest g := by
  have stored : f.file? manifestName = g.file? manifestName := same.files _ List.mem_cons_self
  unfold zoneManifest
  rw [stored, path_text_same same.place]

theorem zone_entry_same (same : f.SameFiles zoneFiles g) : zoneEntry f zone = zoneEntry g zone := by
  have held : ∀ v, variantHolding f zone v = variantHolding g zone v :=
    fun v => variant_holding_same (same.of_subset (variant_files_subset v))
  unfold zoneEntry
  rw [zone_manifest_same same, held, held]

theorem zone_entry_rejected {reason : String} (unread : zoneManifest f = .error reason) (v : Variant) :
    (zoneEntry f zone).holding v = .rejected ("zone manifest: " ++ reason) := by
  simp only [zoneEntry, unread]
  cases v <;> rfl

theorem zone_entry_holding {manifest : Manifest} (read : zoneManifest f = .ok manifest) (v : Variant) :
    (zoneEntry f zone).holding v = variantHolding f zone v := by
  simp only [zoneEntry, read]
  cases v <;> rfl

end Reading

-- Listings of one directory in which the same subdirectories hold the same of the files that zones are read from.
-- Whatever else is there may differ, and the order too.
structure SameModels (place : Path) (entries others : List (FileName × Files)) : Prop where
  listed : ∀ zone, (∃ below, (.text zone, .folder below) ∈ entries) ↔ ∃ below, (.text zone, .folder below) ∈ others
  files : ∀ zone below below', (.text zone, .folder below) ∈ entries → (.text zone, .folder below') ∈ others →
    Folder.SameFiles zoneFiles ⟨place.child zone, below⟩ ⟨place.child zone, below'⟩

section Directories

variable {place : Path} {entries others : List (FileName × Files)}

theorem zones_same (once : NamedOnce entries) (once' : NamedOnce others) (same : SameModels place entries others) :
    zonesOf place entries = zonesOf place others := by
  refine Table.ext_get fun zone => ?_
  by_cases listed : ∃ below, (.text zone, .folder below) ∈ entries
  · obtain ⟨below', member'⟩ := (same.listed zone).mp listed
    obtain ⟨below, member⟩ := listed
    rw [zones_present once member, zones_present once' member', zone_entry_same (same.files _ _ _ member member')]
  · have missing : ∀ below, (.text zone, .folder below) ∉ entries := fun below member => listed ⟨below, member⟩
    have missing' : ∀ below, (.text zone, .folder below) ∉ others :=
      fun below member => listed ((same.listed zone).mpr ⟨below, member⟩)
    rw [zones_missing missing, zones_missing missing']

theorem same_models_reordered (once : NamedOnce entries) (order : others.Perm entries) :
    NamedOnce others ∧ SameModels place entries others := by
  refine ⟨(order.map _).nodup_iff.mpr once, fun zone => ?_, ?_⟩
  · simp only [order.mem_iff]
  · intro zone below below' member member'
    have one : below = below' := by
      have inside := order.mem_iff.mp member'
      have pair := List.inj_on_of_nodup_map once member inside rfl
      injection pair with _ same
      injection same
    subst one
    exact ⟨rfl, fun _ _ => rfl⟩

theorem directory_loaded {files : Files} {root : Path} (listed : files.list? root = .ok entries) (generation : Nat) :
    Registry.ofDirectory files root generation =
      .ok { generation := generation, root := some root, zones := zonesOf root entries } := by
  unfold Registry.ofDirectory
  rw [listed]

theorem directory_zones {files : Files} {root : Path} {generation : Nat} {r : Registry}
    (listed : files.list? root = .ok entries) (loaded : Registry.ofDirectory files root generation = .ok r) :
    r.zones = zonesOf root entries := by
  rw [directory_loaded listed] at loaded
  exact congrArg Registry.zones (Except.ok.inj loaded).symm

/-- A directory that can be listed gives a registry, whose zones are its subdirectories with a text for a name. What is
held for a zone follows from the path of its subdirectory and the seven files that a zone is read from, whatever else
there is and in whatever order it is listed; what is held for a variant, from its own three files and from whether
the manifest can be read. -/
theorem loading_pointwise {files : Files} {root : Path} (listed : files.list? root = .ok entries)
    (once : NamedOnce entries) (generation : Nat) :
    ∃ r, Registry.ofDirectory files root generation = .ok r ∧ r.generation = generation ∧ r.root = some root ∧
      (∀ zone, r.contains zone = true ↔ ∃ below, (.text zone, .folder below) ∈ entries) ∧
      (∀ zone e, r.find? zone = some e ↔
        ∃ below, (.text zone, .folder below) ∈ entries ∧ e = zoneEntry ⟨root.child zone, below⟩ zone) ∧
      (∀ zone below reason, (.text zone, .folder below) ∈ entries →
        zoneManifest ⟨root.child zone, below⟩ = .error reason →
        ∀ v, (r.find? zone).map (·.holding v) = some (.rejected ("zone manifest: " ++ reason))) ∧
      ∀ files' others generation' r', files'.list? root = .ok others → NamedOnce others →
        Registry.ofDirectory files' root generation' = .ok r' →
        (others.Perm entries → r'.zones = r.zones) ∧
        (SameModels root entries others → r'.zones = r.zones) ∧
        ∀ zone below below', (.text zone, .folder below) ∈ entries → (.text zone, .folder below') ∈ others →
          (Folder.SameFiles zoneFiles ⟨root.child zone, below⟩ ⟨root.child zone, below'⟩ →
            r'.find? zone = r.find? zone) ∧
          ∀ v manifest manifest', Folder.SameFiles (variantFiles v) ⟨root.child zone, below⟩ ⟨root.child zone, below'⟩ →
            zoneManifest ⟨root.child zone, below⟩ = .ok manifest →
            zoneManifest ⟨root.child zone, below'⟩ = .ok manifest' →
            (r'.find? zone).map (·.holding v) = (r.find? zone).map (·.holding v) := by
  refine ⟨_, directory_loaded listed generation, rfl, rfl, ?_, ?_, ?_, ?_⟩
  · intro zone
    refine Table.contains_iff.trans ⟨fun ⟨e, held⟩ => ?_, fun ⟨below, member⟩ => ⟨_, zones_present once member⟩⟩
    obtain ⟨below, member, _⟩ := (get_zones once).mp held
    exact ⟨below, member⟩
  · intro zone e
    exact get_zones once
  · intro zone below reason member unread v
    exact (congrArg _ (zones_present once member)).trans (congrArg some (zone_entry_rejected unread v))
  · intro files' others generation' r' listed' once' loaded'
    have zones' := directory_zones listed' loaded'
    refine ⟨fun order => ?_, fun same => ?_, ?_⟩
    · exact zones'.trans (zones_same once once' (same_models_reordered once order).2).symm
    · exact zones'.trans (zones_same once once' same).symm
    · intro zone below below' member member'
      have held : (zonesOf root entries).get? zone = _ := zones_present once member
      have held' : r'.find? zone = _ := (congrArg (·.get? zone) zones').trans (zones_present once' member')
      refine ⟨fun same => ?_, fun v manifest manifest' same read read' => ?_⟩
      · rw [held', ← zone_entry_same same]
        exact held.symm
      · have holdings : (zoneEntry ⟨root.child zone, below'⟩ zone).holding v =
            (zoneEntry ⟨root.child zone, below⟩ zone).holding v := by
          rw [zone_entry_holding read, zone_entry_holding read', variant_holding_same same]
        rw [held']
        exact (congrArg some holdings).trans (congrArg (Option.map fun e : ZoneEntry => e.holding v) held).symm

end Directories

namespace Sample

-- A zone with a model that has no metadata, a zone without files, and what is no zone.
def modelEntries : List (FileName × Files) :=
  [(.text "SCE", .folder [(.text "enhanced_model_current.json", .file [])]), (.stray [255], .folder []),
    (.text "notes.txt", .file []), (.text "PGAE", .folder [])]

def modelFiles : Files := .folder [(.text "models", .folder modelEntries)]

def modelRoot : Path := ⟨"top", ["models"]⟩

theorem model_root_sound : modelRoot.fault? = none := by
  simp only [Path.fault?, String.contains_char_eq]
  decide +kernel

theorem model_files_listed : modelFiles.list? modelRoot = .ok modelEntries := by
  simp only [Files.list?, Files.locate?, model_root_sound]
  rfl

theorem models_loaded : ∃ r, Registry.ofDirectory modelFiles modelRoot 3 = .ok r ∧ r.generation = 3 ∧
    r.contains "SCE" = true ∧ r.contains "notes.txt" = false := by
  obtain ⟨r, loaded, generation, _, zones, _⟩ := loading_pointwise model_files_listed (by decide) 3
  refine ⟨r, loaded, generation, (zones "SCE").mpr ⟨_, List.mem_cons_self⟩, ?_⟩
  refine Bool.eq_false_iff.mpr fun there => ?_
  obtain ⟨below, member⟩ := (zones "notes.txt").mp there
  simp [modelEntries] at member

end Sample

end GridLoad
