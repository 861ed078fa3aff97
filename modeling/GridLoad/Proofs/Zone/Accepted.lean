import GridLoad.Proofs.Forecast.Division
import GridLoad.Proofs.Zone.Loading
import GridLoad.Sample

/-!
Which models are taken into a registry. A variant is held as loaded if and only if its files pass every check, and what
was checked then is what a forecast relies on.
-/

set_option autoImplicit false

namespace GridLoad

open GridLoad.Time (Timestamp)

-- What an artifact of either form has to be for a model to come of it.
def ArtifactForm.Gives (form : ArtifactForm) (artifact : List UInt8) (metadata : Metadata) (m : Model) : Prop :=
  match form with
  | .linear => ∃ a, (Json.ofBytes? artifact).bind LinearArtifact.ofJson? = some a ∧ a.Fits metadata.features.length ∧
      m = ⟨metadata, Linear.estimate a.intercept a.coefficients⟩
  | .graph => Graph.model artifact metadata = .ok m

-- What the metadata and the artifact of a variant have to be for its model to be loaded.
structure Checked (zone : String) (v : Variant) (form : ArtifactForm) (sidecar artifact : List UInt8)
    (metadata : Metadata) (m : Model) : Prop where
  parsed : (Json.ofBytes? sidecar).bind Metadata.ofJson? = some metadata
  accepted : metadata.validate zone v = .ok ()
  checksum : ∀ expected, metadata.sha256 = some expected → lowerAscii (checksum artifact) = lowerAscii expected
  gives : form.Gives artifact metadata m

-- The files of a variant in a folder, from which its model is loaded. An artifact in the first form goes before one
-- in the second.
structure Folder.Offers (folder : Folder) (zone : String) (v : Variant) (form : ArtifactForm) (m : Model) : Prop where
  first : form = .graph → folder.file? (ArtifactForm.linear.fileName v) = none
  files : ∃ sidecar artifact metadata, folder.file? (sidecarName v) = some sidecar ∧
    folder.file? (form.fileName v) = some artifact ∧ Checked zone v form sidecar artifact metadata m

section

variable {folder : Folder} {zone : String} {v : Variant} {form : ArtifactForm} {sidecar artifact : List UInt8}
  {metadata : Metadata} {m : Model}

theorem decode_gives : form.decode artifact metadata = .ok m ↔ form.Gives artifact metadata m := by
  cases form with
  | linear => exact linear_bytes_pass
  | graph => exact Iff.rfl

theorem gives_metadata (gives : form.Gives artifact metadata m) : m.metadata = metadata := by
  cases form with
  | linear =>
      obtain ⟨_, _, _, rfl⟩ := gives
      rfl
  | graph => exact graph_metadata gives

theorem decode_passes {fault : String → String} :
    (match form.decode artifact metadata with
      | .ok model => pure model
      | .error reason => throw (fault reason) : Except String Model) = .ok m ↔ form.Gives artifact metadata m := by
  rw [← decode_gives]
  cases form.decode artifact metadata with
  | ok model => exact Iff.rfl
  | error reason => exact ⟨nofun, nofun⟩

-- The checks are made one after another, and the model is made when all of them have passed.
theorem checked_iff : checkedModel folder zone v form sidecar artifact = .ok m ↔
    ∃ metadata, Checked zone v form sidecar artifact metadata m := by
  simp only [checkedModel]
  cases parsed : (Json.ofBytes? sidecar).bind Metadata.ofJson? with
  | none => exact ⟨nofun, fun ⟨_, checked⟩ => by cases parsed.symm.trans checked.parsed⟩
  | some metadata =>
      simp only [pure_bind, bind_passes]
      have own : ∀ other, Checked zone v form sidecar artifact other m → other = metadata :=
        fun other checked => Option.some.inj (checked.parsed.symm.trans parsed)
      cases given : metadata.sha256 with
      | none =>
          constructor
          · rintro ⟨_, accepted, decoded⟩
            refine ⟨metadata, parsed, accepted, fun expected there => ?_, decode_passes.mp decoded⟩
            cases given.symm.trans there
          · rintro ⟨other, checked⟩
            obtain rfl := own other checked
            exact ⟨(), checked.accepted, decode_passes.mpr checked.gives⟩
      | some expected =>
          simp only [guard_passes, ne_eq, Decidable.not_not]
          constructor
          · rintro ⟨_, accepted, equal, decoded⟩
            refine ⟨metadata, parsed, accepted, fun other there => ?_, decode_passes.mp decoded⟩
            cases given.symm.trans there
            exact equal
          · rintro ⟨other, checked⟩
            obtain rfl := own other checked
            exact ⟨(), checked.accepted, checked.checksum expected given, decode_passes.mpr checked.gives⟩

theorem no_artifact : artifact? folder v = none ↔ ∀ form : ArtifactForm, folder.file? (form.fileName v) = none := by
  unfold artifact?
  rw [List.findSome?_eq_none_iff]
  constructor
  · intro none form
    have listed : form ∈ ArtifactForm.all := by cases form <;> decide
    exact Option.map_eq_none_iff.mp (none form listed)
  · intro none form _
    exact Option.map_eq_none_iff.mpr (none form)

-- The first form is looked for first.
theorem artifact_found : artifact? folder v = some (form, artifact) ↔
    folder.file? (form.fileName v) = some artifact ∧
      (form = .graph → folder.file? (ArtifactForm.linear.fileName v) = none) := by
  simp only [artifact?, ArtifactForm.all, List.findSome?]
  cases linear : folder.file? (ArtifactForm.linear.fileName v) with
  | none =>
      cases graph : folder.file? (ArtifactForm.graph.fileName v) with
      | none => cases form <;> simp [linear, graph]
      | some found => cases form <;> simp [linear, graph]
  | some found => cases form <;> simp [linear]

theorem variant_absent : variantHolding folder zone v = .absent ↔
    folder.file? (sidecarName v) = none ∧ ∀ form : ArtifactForm, folder.file? (form.fileName v) = none := by
  rw [← no_artifact]
  unfold variantHolding
  cases artifact? folder v with
  | none =>
      cases folder.file? (sidecarName v) with
      | none => exact ⟨fun _ => ⟨rfl, rfl⟩, fun _ => rfl⟩
      | some sidecar => exact ⟨nofun, nofun⟩
  | some stored =>
      cases folder.file? (sidecarName v) with
      | none => exact ⟨nofun, nofun⟩
      | some sidecar =>
          refine ⟨fun absent => ?_, nofun⟩
          dsimp only at absent
          split at absent <;> cases absent

theorem variant_loaded : variantHolding folder zone v = .loaded m ↔ ∃ form, folder.Offers zone v form m := by
  unfold variantHolding
  cases found : artifact? folder v with
  | none =>
      have none := no_artifact.mp found
      refine ⟨fun loaded => ?_, fun ⟨form, accepted⟩ => ?_⟩
      · cases described : folder.file? (sidecarName v) <;> rw [described] at loaded <;> cases loaded
      · obtain ⟨_, _, _, _, there, _⟩ := accepted.files
        cases (none form).symm.trans there
  | some stored =>
      obtain ⟨form, artifact⟩ := stored
      obtain ⟨there, first⟩ := artifact_found.mp found
      have only : ∀ other, folder.Offers zone v other m → other = form := by
        rintro other ⟨before, _, artifact', _, _, there', _⟩
        have found' := artifact_found.mpr ⟨there', before⟩
        cases found.symm.trans found'
        rfl
      cases described : folder.file? (sidecarName v) with
      | none =>
          refine ⟨nofun, fun ⟨_, _, sidecar, _, _, there', _⟩ => ?_⟩
          cases described.symm.trans there'
      | some sidecar =>
          have checks : checkedModel folder zone v form sidecar artifact = .ok m ↔ folder.Offers zone v form m := by
            rw [checked_iff]
            constructor
            · rintro ⟨metadata, checked⟩
              exact ⟨first, sidecar, artifact, metadata, described, there, checked⟩
            · rintro ⟨_, sidecar', artifact', metadata, described', there', checked⟩
              cases described.symm.trans described'
              cases there.symm.trans there'
              exact ⟨metadata, checked⟩
          have one : (∃ other, folder.Offers zone v other m) ↔ folder.Offers zone v form m :=
            ⟨fun ⟨other, accepted⟩ => only other accepted ▸ accepted, fun accepted => ⟨form, accepted⟩⟩
          rw [one, ← checks]
          dsimp only
          cases checkedModel folder zone v form sidecar artifact with
          | ok model => simp
          | error reason => exact ⟨nofun, nofun⟩

theorem variant_rejected : (∃ reason, variantHolding folder zone v = .rejected reason) ↔
    ¬ (folder.file? (sidecarName v) = none ∧ ∀ form : ArtifactForm, folder.file? (form.fileName v) = none) ∧
      ∀ form m, ¬ folder.Offers zone v form m := by
  rw [← variant_absent]
  cases held : variantHolding folder zone v with
  | absent => exact ⟨nofun, fun ⟨present, _⟩ => absurd rfl present⟩
  | rejected reason =>
      refine ⟨fun _ => ⟨nofun, fun form m accepted => ?_⟩, fun _ => ⟨reason, rfl⟩⟩
      cases held.symm.trans (variant_loaded.mpr ⟨form, accepted⟩)
  | loaded m =>
      obtain ⟨form, accepted⟩ := variant_loaded.mp held
      exact ⟨nofun, fun ⟨_, others⟩ => absurd accepted (others form m)⟩

theorem accepted_valid (accepted : folder.Offers zone v form m) : m.metadata.Valid zone v := by
  obtain ⟨_, _, _, metadata, _, _, checked⟩ := accepted
  rw [gives_metadata checked.gives]
  exact metadata_passes.mp checked.accepted

end

section Holdings

variable {place : Path} {entries : List (FileName × Files)} {t : Table String ZoneEntry} {zone : String} {e : ZoneEntry}
  {v : Variant} {m : Model}

theorem model_held : e.model? v = some m ↔ e.holding v = .loaded m := by
  unfold ZoneEntry.model?
  cases e.holding v <;> simp [Holding.model?]

-- A step loads the model it enters and no other.
theorem change_loads {step : Registry.Step} (loaded : (step.change e).holding v = .loaded m) :
    step = .model step.zone v m ∨ e.holding v = .loaded m := by
  cases step with
  | touch zone => exact .inr loaded
  | manifest zone manifest =>
      refine .inr (Eq.trans ?_ loaded)
      cases v <;> rfl
  | model zone variant entered =>
      by_cases same : v = variant
      · subst same
        cases (ZoneEntry.holding_set_self e v _).symm.trans loaded
        exact .inl rfl
      · exact .inr ((ZoneEntry.holding_set_other e variant v _ same).symm.trans loaded)
  | reject zone variant reason =>
      by_cases same : v = variant
      · subst same
        cases (ZoneEntry.holding_set_self e v _).symm.trans loaded
      · exact .inr ((ZoneEntry.holding_set_other e variant v _ same).symm.trans loaded)

theorem steps_load {steps : List Registry.Step} (found : (steps.foldl Registry.apply t).get? zone = some e)
    (loaded : e.holding v = .loaded m) :
    .model zone v m ∈ steps ∨ ∃ before, t.get? zone = some before ∧ before.holding v = .loaded m := by
  induction steps generalizing t with
  | nil => exact .inr ⟨e, found, loaded⟩
  | cons step rest ih =>
      rcases ih found with later | ⟨after, there, held⟩
      · exact .inl (List.mem_cons_of_mem _ later)
      · by_cases here : step.zone = zone
        · subst here
          cases (Registry.get_apply_own t step).symm.trans there
          rcases change_loads held with entered | before
          · exact .inl (entered ▸ List.mem_cons_self)
          · cases earlier : t.get? step.zone with
            | none =>
                rw [earlier] at before
                cases v <;> cases before
            | some old =>
                rw [earlier] at before
                exact .inr ⟨old, rfl, before⟩
        · exact .inr ⟨after, (Registry.get_apply_other here).symm.trans there, held⟩

theorem folder_loads {folder : Folder} (entered : .model zone v m ∈ folderSteps zone folder) :
    variantHolding folder zone v = .loaded m := by
  unfold folderSteps at entered
  cases read : zoneManifest folder with
  | error reason =>
      rw [read] at entered
      obtain ⟨_, _, same⟩ := List.mem_map.mp entered
      cases same
  | ok manifest =>
      rw [read] at entered
      rcases List.mem_cons.mp entered with declared | entered
      · cases declared
      · obtain ⟨variant, _, same⟩ := List.mem_map.mp entered
        cases held : variantHolding folder zone variant with
        | absent =>
            rw [held] at same
            cases same
        | rejected reason =>
            rw [held] at same
            cases same
        | loaded model =>
            rw [held] at same
            cases same
            exact held

-- Whatever a registry holds for a zone was accepted from a subdirectory of that name.
theorem zones_loaded (found : (zonesOf place entries).get? zone = some e) (loaded : e.model? v = some m) :
    ∃ below form, (.text zone, .folder below) ∈ entries ∧ Folder.Offers ⟨place.child zone, below⟩ zone v form m := by
  unfold zonesOf at found
  rcases steps_load found (model_held.mp loaded) with entered | ⟨_, there, _⟩
  · obtain ⟨⟨name, folder⟩, listed, made⟩ := List.mem_flatMap.mp entered
    obtain rfl : name = zone := (folder_steps_zone _ made).symm
    obtain ⟨below, member, rfl⟩ := mem_zone_folders.mp listed
    obtain ⟨form, accepted⟩ := variant_loaded.mp (folder_loads made)
    exact ⟨below, form, member, accepted⟩
  · cases there

end Holdings

section Inputs

variable {zone : String} {s : Snapshot} {hours : Nat} {inputs : List Float}

theorem inputs_count {schema : List Feature} (given : modelInputs zone schema s hours = .ok inputs) :
    inputs.length = schema.length := by
  unfold modelInputs at given
  induction schema generalizing inputs with
  | nil =>
      cases given
      rfl
  | cons f rest ih =>
      rw [List.mapM_cons, bind_passes] at given
      obtain ⟨value, _, given⟩ := given
      obtain ⟨values, others, given⟩ := bind_passes.mp given
      cases given
      exact congrArg (· + 1) (ih others)

theorem linear_estimates {folder : Folder} {v : Variant} {m : Model} {own : String}
    (accepted : folder.Offers own v .linear m) (given : modelInputs zone m.metadata.features s hours = .ok inputs) :
    ∃ x, m.estimate inputs = .ok x := by
  obtain ⟨_, _, _, metadata, _, _, checked⟩ := accepted
  obtain ⟨a, _, fits, rfl⟩ := checked.gives
  exact estimate_given ((inputs_count given).trans fits.coefficients.symm)

end Inputs

namespace Sample

/-! A directory with one linear model. -/

theorem json_read (j : Json) : Json.ofBytes? j.text.toUTF8.data.toList = Json.ofChars? (j.chars.map Text.unmarked) := by
  have valid : Text.ofBytes? j.text.toUTF8.data.toList = some j.text := by
    unfold Text.ofBytes? String.fromUTF8?
    exact dif_pos j.text.isValidUTF8
  unfold Json.ofBytes? Text.charsOfBytes
  rw [valid]
  simp only [Text.documentChars, Json.text, String.toList_ofList]

def storedMetadata : Metadata := metadata "SCE" .enhanced defaultFeatures

def storedModel : LinearArtifact := ⟨LinearArtifact.knownFormat, 100, [2]⟩

def storedFolder : List (FileName × Files) :=
  [(.text "enhanced_model_current.json", .file storedModel.toJson.text.toUTF8.data.toList),
    (.text "enhanced_model_current.meta.json", .file storedMetadata.toJson.text.toUTF8.data.toList)]

def storedEntries : List (FileName × Files) := [(.text "SCE", .folder storedFolder)]

def storedFiles : Files := .folder [(.text "models", .folder storedEntries)]

def linearModel : Model := ⟨storedMetadata, Linear.estimate 100 [2]⟩

theorem stored_files_listed : storedFiles.list? modelRoot = .ok storedEntries := by
  simp only [Files.list?, Files.locate?, model_root_sound]
  rfl

theorem stored_accepted : Folder.Offers ⟨modelRoot.child "SCE", storedFolder⟩ "SCE" .enhanced .linear linearModel where
  first := nofun
  files := by
    refine ⟨_, _, storedMetadata, rfl, rfl, ?_, by decide +kernel, nofun, storedModel, ?_, ?_, rfl⟩
    · rw [json_read]
      decide +kernel
    · rw [json_read]
      decide +kernel
    · exact ⟨rfl, rfl, by decide +kernel, by decide +kernel⟩

-- A division that gives nothing where a divisor is no good.
def guarded : Division where
  scaled deviation std := if std.isFinite && std > 0 then Division.usual.scaled deviation std else 0
  growth hours reference := if reference = 0 then 0 else Division.usual.growth hours reference

theorem guarded_right : guarded.RightWhereDefined where
  scaled deviation std finite positive := if_pos (by simp [finite, positive])
  growth hours reference some_hour := if_neg some_hour

end Sample

end GridLoad
