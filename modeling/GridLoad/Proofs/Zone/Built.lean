import GridLoad.Proofs.Program.Latest
import GridLoad.Proofs.Zone.Accepted
import GridLoad.Proofs.Zone.Availability
import GridLoad.Sample

/-!
What a registry holds that was put together from steps. For each zone and variant it is what the last step said of it,
whatever came before, and steps for different zones do not meet. A zone whose models and states are kept in two books,
each written on its own, reads the same.
-/

set_option autoImplicit false

namespace GridLoad

namespace Registry

-- What a step says of a variant of a zone.
def Step.settles? (zone : String) (v : Variant) : Step → Option Holding
  | .model z w m => if z = zone ∧ w = v then some (.loaded m) else none
  | .reject z w reason => if z = zone ∧ w = v then some (.rejected reason) else none
  | _ => none

def Step.declares? (zone : String) : Step → Option Manifest
  | .manifest z declared => if z = zone then some declared else none
  | _ => none

-- What the last step says that says anything of a variant.
def Settled (steps : List Step) (zone : String) (v : Variant) (h : Holding) : Prop :=
  Latest (Step.settles? zone v) (fun _ => false) steps h

def Declared (steps : List Step) (zone : String) (manifest : Manifest) : Prop :=
  Latest (Step.declares? zone) (fun _ => false) steps manifest

end Registry

-- What a status tells of a variant.
inductive VariantState where
  | loaded (modelVersion : String)
  | rejected (reason : String)
  | absent

def Holding.state : Holding → VariantState
  | .absent => .absent
  | .rejected reason => .rejected reason
  | .loaded m => .loaded m.metadata.modelVersion

def Variant.rank : Variant → Nat
  | .baseline => 0
  | .enhanced => 1

instance : LT Variant := ⟨fun v w => v.rank < w.rank⟩

instance : DecidableLT Variant := fun v w => inferInstanceAs (Decidable (v.rank < w.rank))

instance : KeyOrder Variant where
  before_trans := Nat.lt_trans
  before_irrefl v := Nat.lt_irrefl v.rank
  before_total v w := by cases v <;> cases w <;> decide

theorem mem_variants (v : Variant) : v ∈ Variant.all := by
  cases v <;> decide

-- The table of what there is for the variants.
def Table.ofVariants {α : Type} (f : Variant → Option α) : Table Variant α where
  entries := Variant.all.filterMap fun v => (f v).map (v, ·)
  increasing := by
    cases first : f .baseline <;> cases second : f .enhanced <;> simp [Variant.all, first, second]
    decide

theorem Table.get_of_variants {α : Type} (f : Variant → Option α) (v : Variant) : (Table.ofVariants f).get? v = f v := by
  refine Option.ext fun x => Table.get_iff_entry.trans ?_
  simp only [Table.ofVariants, List.mem_filterMap, Option.map_eq_some_iff, Prod.mk.injEq]
  constructor
  · rintro ⟨w, _, y, found, rfl, rfl⟩
    exact found
  · intro found
    exact ⟨v, mem_variants v, x, found, rfl, rfl⟩

theorem Table.eq_of_variants {α : Type} {t : Table Variant α} {f : Variant → Option α} (same : ∀ v, t.get? v = f v) :
    t = Table.ofVariants f :=
  Table.ext_get fun v => (same v).trans (Table.get_of_variants f v).symm

-- A zone with its models in one book and its variants' states in another.
structure ZoneBooks where
  manifest : Manifest := {}
  models : Table Variant Model := .empty
  states : Table Variant VariantState := .empty

namespace ZoneBooks

def change : Registry.Step → ZoneBooks → ZoneBooks
  | .touch _, b => b
  | .manifest _ declared, b => { b with manifest := declared }
  | .model _ v m, b =>
      { b with models := b.models.insert v m, states := b.states.insert v (.loaded m.metadata.modelVersion) }
  | .reject _ v reason, b => { b with models := b.models.erase v, states := b.states.insert v (.rejected reason) }

def enter (zones : Table String ZoneBooks) (step : Registry.Step) : Table String ZoneBooks :=
  zones.modify step.zone {} (change step)

def state (b : ZoneBooks) (v : Variant) : VariantState := (b.states.get? v).getD .absent

def isAvailable (b : ZoneBooks) : Bool := !b.models.isEmpty

def issues (b : ZoneBooks) : List String :=
  b.states.entries.filterMap fun e =>
    match e.2 with
    | .rejected reason => some (e.1.name ++ ": " ++ reason)
    | _ => none

end ZoneBooks

-- All that is read of a zone.
structure ZoneReading where
  manifest : Manifest
  model? : Variant → Option Model
  state : Variant → VariantState
  isAvailable : Bool
  issues : List String

def ZoneEntry.reading (e : ZoneEntry) : ZoneReading :=
  ⟨e.manifest, e.model?, fun v => (e.holding v).state, e.isAvailable, e.issues⟩

def ZoneBooks.reading (b : ZoneBooks) : ZoneReading := ⟨b.manifest, b.models.get?, b.state, b.isAvailable, b.issues⟩

section Entries

variable {t : Table String ZoneEntry} {zone : String} {v : Variant}

theorem set_manifest (e : ZoneEntry) (v : Variant) (h : Holding) : (e.set v h).manifest = e.manifest := by
  cases v <;> rfl

theorem holding_set (e : ZoneEntry) (v w : Variant) (h : Holding) :
    (e.set w h).holding v = if w = v then h else e.holding v := by
  split
  · rename_i same
    rw [← same, ZoneEntry.holding_set_self]
  · rename_i other
    exact ZoneEntry.holding_set_other e w v h (Ne.symm other)

-- A step sets what it says of a variant, and leaves what it says nothing of.
theorem holding_after (step : Registry.Step) : (((Registry.apply t step).get? zone).getD {}).holding v =
    (step.settles? zone v).getD (((t.get? zone).getD {}).holding v) := by
  by_cases here : step.zone = zone
  · subst here
    rw [Registry.get_apply_own, Option.getD_some]
    cases step with
    | touch zone => rfl
    | manifest zone manifest => cases v <;> rfl
    | model zone w m =>
        simp only [Registry.Step.change, Registry.Step.settles?, Registry.Step.zone, holding_set, true_and]
        split <;> rfl
    | reject zone w reason =>
        simp only [Registry.Step.change, Registry.Step.settles?, Registry.Step.zone, holding_set, true_and]
        split <;> rfl
  · have silent : step.settles? zone v = none := by
      cases step <;> simp_all [Registry.Step.settles?, Registry.Step.zone]
    rw [Registry.get_apply_other here, silent]
    rfl

theorem manifest_after (step : Registry.Step) : (((Registry.apply t step).get? zone).getD {}).manifest =
    (step.declares? zone).getD ((t.get? zone).getD {}).manifest := by
  by_cases here : step.zone = zone
  · subst here
    rw [Registry.get_apply_own, Option.getD_some]
    cases step with
    | touch zone => rfl
    | manifest zone manifest =>
        simp only [Registry.Step.declares?, Registry.Step.zone, if_true]
        rfl
    | model zone w m => exact set_manifest _ _ _
    | reject zone w reason => exact set_manifest _ _ _
  · have silent : step.declares? zone = none := by
      cases step <;> simp_all [Registry.Step.declares?, Registry.Step.zone]
    rw [Registry.get_apply_other here, silent]
    rfl

end Entries

section Built

variable (generation : Nat) {steps : List Registry.Step} {zone : String} {v : Variant} {e : ZoneEntry}

open Registry

theorem contains_named : (ofSteps generation steps).contains zone = true ↔ ∃ step ∈ steps, step.zone = zone := by
  have own : (steps.foldl apply .empty).get? zone = ((steps.filter (·.zone = zone)).foldl apply .empty).get? zone :=
    get_steps_only steps rfl
  rw [contains, Table.contains, ofSteps, own]
  by_cases named : ∃ step ∈ steps, step.zone = zone
  · have within : ∀ step ∈ steps.filter (·.zone = zone), step.zone = zone := by simp
    have some_step : steps.filter (·.zone = zone) ≠ [] := by simpa [List.filter_eq_nil_iff] using named
    rw [get_steps_within within some_step]
    exact iff_of_true rfl named
  · have none : steps.filter (·.zone = zone) = [] := by simpa [List.filter_eq_nil_iff] using named
    rw [none]
    exact iff_of_false Bool.false_ne_true named

-- The last step that says something of a variant has settled it, and nothing has where there is none.
theorem holding_latest (found : (ofSteps generation steps).find? zone = some e) (v : Variant) :
    (∀ h, Settled steps zone v h → e.holding v = h) ∧
      ((∀ step ∈ steps, step.settles? zone v = none) → e.holding v = .absent) := by
  have read := latest_read (Step.settles? zone v)
    (fun steps => (((steps.foldl apply .empty).get? zone).getD {}).holding v)
    (fun before step => by
      rw [List.foldl_append]
      exact holding_after step) steps
  have there : (steps.foldl apply .empty).get? zone = some e := found
  simp only [there, Option.getD_some] at read
  refine ⟨read.1, fun silent => (read.2 silent).trans ?_⟩
  cases v <;> rfl

theorem manifest_latest (found : (ofSteps generation steps).find? zone = some e) :
    (∀ manifest, Declared steps zone manifest → e.manifest = manifest) ∧
      ((∀ step ∈ steps, step.declares? zone = none) → e.manifest = {}) := by
  have read := latest_read (Step.declares? zone)
    (fun steps => (((steps.foldl apply .empty).get? zone).getD {}).manifest)
    (fun before step => by
      rw [List.foldl_append]
      exact manifest_after step) steps
  have there : (steps.foldl apply .empty).get? zone = some e := found
  simp only [there, Option.getD_some] at read
  exact read

-- No step says that a variant is absent.
theorem never_absent : ¬ Settled steps zone v .absent := by
  rintro ⟨_, step, _, _, said, _⟩
  cases step <;> simp [Step.settles?] at said

theorem settled_or_never (steps : List Registry.Step) (zone : String) (v : Variant) :
    (∃ h, Settled steps zone v h) ∨ ∀ step ∈ steps, step.settles? zone v = none :=
  latest_or_never steps

theorem holding_settled (found : (ofSteps generation steps).find? zone = some e) {h : Holding} (present : h ≠ .absent) :
    e.holding v = h ↔ Settled steps zone v h := by
  obtain ⟨last, none⟩ := holding_latest generation found v
  refine ⟨?_, last h⟩
  rintro rfl
  rcases settled_or_never steps zone v with ⟨h, settled⟩ | never
  · exact last h settled ▸ settled
  · exact absurd (none never) present

theorem holding_absent (found : (ofSteps generation steps).find? zone = some e) :
    e.holding v = .absent ↔ ∀ step ∈ steps, step.settles? zone v = none := by
  obtain ⟨last, none⟩ := holding_latest generation found v
  refine ⟨fun absent => ?_, none⟩
  rcases settled_or_never steps zone v with ⟨h, settled⟩ | never
  · exact absurd (absent ▸ last h settled ▸ settled) never_absent
  · exact never

theorem find_settled {h : Holding} (settled : Settled steps zone v h) :
    ∃ e, (ofSteps generation steps).find? zone = some e := by
  obtain ⟨before, step, after, rfl, said, _⟩ := settled
  have named : step.zone = zone := by
    cases step <;> simp_all [Step.settles?, Step.zone]
  exact Table.contains_iff.mp ((contains_named generation).mpr ⟨step, by simp, named⟩)

theorem loaded_settled (found : (ofSteps generation steps).find? zone = some e) {m : Model} :
    e.holding v = .loaded m ↔ Settled steps zone v (.loaded m) :=
  holding_settled generation found nofun

theorem rejected_settled (found : (ofSteps generation steps).find? zone = some e) {reason : String} :
    e.holding v = .rejected reason ↔ Settled steps zone v (.rejected reason) :=
  holding_settled generation found nofun

theorem entry_available : e.isAvailable = true ↔ ∃ v m, e.holding v = .loaded m := by
  have empty : e.models = [] ↔ ∀ v, e.model? v = none := by
    simp [ZoneEntry.models, List.filterMap_eq_nil_iff, mem_variants]
  rw [ZoneEntry.isAvailable, Bool.not_eq_true', ← Bool.not_eq_true, List.isEmpty_iff, empty]
  simp only [← model_held, Option.eq_none_iff_forall_ne_some, not_forall, ne_eq, not_not]

theorem available_settled : ((ofSteps generation steps).find? zone).any ZoneEntry.isAvailable = true ↔
    ∃ v m, Settled steps zone v (.loaded m) := by
  rw [Option.any_eq_true]
  constructor
  · rintro ⟨e, found, available⟩
    obtain ⟨v, m, loaded⟩ := entry_available.mp available
    exact ⟨v, m, (loaded_settled generation found).mp loaded⟩
  · rintro ⟨v, m, settled⟩
    obtain ⟨e, found⟩ := find_settled generation settled
    exact ⟨e, found, entry_available.mpr ⟨v, m, (loaded_settled generation found).mpr settled⟩⟩

-- The reasons of a zone's rejected variants.
def Rejections (steps : List Registry.Step) (zone : String) (reasons : Table Variant String) : Prop :=
  ∀ v reason, reasons.get? v = some reason ↔ Settled steps zone v (.rejected reason)

def reasonText (reasons : Table Variant String) : String :=
  "; ".intercalate (reasons.entries.map fun e => e.1.name ++ ": " ++ e.2)

theorem rejections_once {reasons others : Table Variant String} (first : Rejections steps zone reasons)
    (second : Rejections steps zone others) : reasons = others :=
  Table.ext_get fun v => Option.ext fun reason => (first v reason).trans (second v reason).symm

theorem entry_rejections (found : (ofSteps generation steps).find? zone = some e) :
    Rejections steps zone (.ofVariants fun v => (e.holding v).reason?) := by
  intro v reason
  rw [Table.get_of_variants, ← rejected_settled generation found]
  cases e.holding v <;> simp [Holding.reason?]

theorem entry_issues (e : ZoneEntry) :
    e.issues = (Table.ofVariants fun v => (e.holding v).reason?).entries.map fun e => e.1.name ++ ": " ++ e.2 := by
  simp only [ZoneEntry.issues, Table.ofVariants, List.map_filterMap, Option.map_map, Function.comp_def]

-- A zone without models is refused with the reasons of its rejected variants, if it has some.
theorem load_without_models (bare : ∀ v m, ¬ Settled steps zone v (.loaded m)) {reasons : Table Variant String}
    (rejected : Rejections steps zone reasons) : (ofSteps generation steps).load zone =
      .error (if reasons.isEmpty then .noModel zone else .corruptModel zone (reasonText reasons)) := by
  have idle : ((ofSteps generation steps).find? zone).any ZoneEntry.isAvailable = false := by
    rw [← Bool.not_eq_true, available_settled]
    exact fun ⟨v, m, settled⟩ => bare v m settled
  unfold Registry.load
  cases found : (ofSteps generation steps).find? zone with
  | none =>
      have none : reasons = .empty := Table.ext_get fun v => Option.eq_none_iff_forall_ne_some.mpr fun reason there => by
        obtain ⟨e, held⟩ := find_settled generation ((rejected v reason).mp there)
        cases found.symm.trans held
      rw [none]
      rfl
  | some e =>
      rw [found, Option.any_some] at idle
      rw [rejections_once rejected (entry_rejections generation found)]
      simp only [idle, Bool.false_eq_true, if_false, ZoneEntry.unavailable, entry_issues, List.isEmpty_map, reasonText]
      rfl

theorem load_with_model (some_model : ∃ v m, Settled steps zone v (.loaded m)) :
    ∃ e, (ofSteps generation steps).load zone = .ok e ∧ (ofSteps generation steps).find? zone = some e := by
  obtain ⟨e, found, available⟩ := (Option.any_eq_true _ _).mp ((available_settled generation).mpr some_model)
  exact ⟨e, load_ok_iff.mpr ⟨found, available⟩, found⟩

-- Steps for different zones leave each zone with the same steps of its own, in the same order.
theorem steps_apart {before after : List Registry.Step} {first second : Registry.Step} (apart : first.zone ≠ second.zone) :
    ofSteps generation (before ++ first :: second :: after) = ofSteps generation (before ++ second :: first :: after) := by
  refine congrArg (fun zones => ({ generation := generation, zones := zones } : Registry)) (Table.ext_get fun zone => ?_)
  rw [get_steps_only (u := .empty) _ rfl, get_steps_only (u := .empty) (before ++ second :: first :: after) rfl]
  congr 2
  simp only [List.filter_append, List.filter_cons]
  by_cases here : first.zone = zone
  · have there : second.zone ≠ zone := fun same => apart (here.trans same.symm)
    simp [here, there]
  · simp [here]

end Built

section Books

variable {b : ZoneBooks} {e : ZoneEntry} {step : Registry.Step} {zone : String}

-- Nothing is written of an absent variant.
def Holding.written? : Holding → Option VariantState
  | .absent => none
  | h => some h.state

-- Books that were written as an entry was changed.
structure ZoneBooks.Keeps (b : ZoneBooks) (e : ZoneEntry) : Prop where
  manifest : b.manifest = e.manifest
  models : ∀ v, b.models.get? v = e.model? v
  states : ∀ v, b.states.get? v = (e.holding v).written?

-- Each step writes in both books what it changes of the entry.
theorem keeps_step (keeps : b.Keeps e) (step : Registry.Step) : (ZoneBooks.change step b).Keeps (step.change e) := by
  obtain ⟨manifest, models, states⟩ := keeps
  cases step with
  | touch zone => exact ⟨manifest, models, states⟩
  | manifest zone declared =>
      refine ⟨rfl, fun v => (models v).trans ?_, fun v => (states v).trans ?_⟩
      · cases v <;> rfl
      · cases v <;> rfl
  | model zone w m =>
      refine ⟨manifest.trans (set_manifest e w _).symm, fun v => ?_, fun v => ?_⟩
      · simp only [ZoneBooks.change, Registry.Step.change, Table.get_insert, models, ZoneEntry.model?, holding_set]
        split <;> rfl
      · simp only [ZoneBooks.change, Registry.Step.change, Table.get_insert, states, holding_set]
        split <;> rfl
  | reject zone w reason =>
      refine ⟨manifest.trans (set_manifest e w _).symm, fun v => ?_, fun v => ?_⟩
      · simp only [ZoneBooks.change, Registry.Step.change, Table.get_erase, models, ZoneEntry.model?, holding_set]
        split <;> rfl
      · simp only [ZoneBooks.change, Registry.Step.change, Table.get_insert, states, holding_set]
        split <;> rfl

theorem keeps_fresh : ({} : ZoneBooks).Keeps {} := by
  refine ⟨rfl, fun v => ?_, fun v => ?_⟩ <;> cases v <;> rfl

theorem keeps_enter {books : Table String ZoneBooks} {zones : Table String ZoneEntry}
    (keeps : ∀ zone, Option.Rel ZoneBooks.Keeps (books.get? zone) (zones.get? zone)) (step : Registry.Step) :
    ∀ zone, Option.Rel ZoneBooks.Keeps ((ZoneBooks.enter books step).get? zone)
      ((Registry.apply zones step).get? zone) := by
  intro zone
  simp only [ZoneBooks.enter, Registry.apply, Table.modify, Table.get_insert]
  split
  · refine .some (keeps_step ?_ step)
    have before := keeps step.zone
    generalize books.get? step.zone = b, zones.get? step.zone = e at before
    cases before with
    | none => exact keeps_fresh
    | some keeps => exact keeps
  · exact keeps zone

theorem keeps_steps (steps : List Registry.Step) {books : Table String ZoneBooks} {zones : Table String ZoneEntry}
    (keeps : ∀ zone, Option.Rel ZoneBooks.Keeps (books.get? zone) (zones.get? zone)) (zone : String) :
    Option.Rel ZoneBooks.Keeps ((steps.foldl ZoneBooks.enter books).get? zone)
      ((steps.foldl Registry.apply zones).get? zone) := by
  induction steps generalizing books zones with
  | nil => exact keeps zone
  | cons step rest ih => exact ih (keeps_enter keeps step)

theorem keeps_reading (keeps : b.Keeps e) : b.reading = e.reading := by
  have models := Table.eq_of_variants keeps.models
  have states := Table.eq_of_variants keeps.states
  have available : b.isAvailable = e.isAvailable := by
    rw [ZoneBooks.isAvailable, models]
    rfl
  have issues : b.issues = e.issues := by
    rw [ZoneBooks.issues, states, ZoneEntry.issues, Table.ofVariants, List.filterMap_filterMap]
    refine List.filterMap_congr fun v _ => ?_
    cases e.holding v <;> rfl
  have told : b.state = fun v => (e.holding v).state := by
    funext v
    rw [ZoneBooks.state, keeps.states]
    cases e.holding v <;> rfl
  simp only [ZoneBooks.reading, ZoneEntry.reading, keeps.manifest, available, issues, told, funext keeps.models]

theorem books_reading (generation : Nat) (steps : List Registry.Step) (zone : String) :
    ((steps.foldl ZoneBooks.enter .empty).get? zone).map ZoneBooks.reading =
      ((Registry.ofSteps generation steps).find? zone).map ZoneEntry.reading := by
  have kept : Option.Rel ZoneBooks.Keeps ((steps.foldl ZoneBooks.enter .empty).get? zone)
      ((steps.foldl Registry.apply .empty).get? zone) := keeps_steps steps (fun _ => .none) zone
  have same : (Registry.ofSteps generation steps).find? zone = (steps.foldl Registry.apply .empty).get? zone := rfl
  rw [same]
  generalize (steps.foldl ZoneBooks.enter .empty).get? zone = b, (steps.foldl Registry.apply .empty).get? zone = e at kept
  cases kept with
  | none => rfl
  | some keeps => exact congrArg some (keeps_reading keeps)

end Books

-- What is read of a zone, by the last steps for it.
structure ZoneReading.BySteps (x : ZoneReading) (steps : List Registry.Step) (zone : String) : Prop where
  models : ∀ v m, x.model? v = some m ↔ Registry.Settled steps zone v (.loaded m)
  loaded : ∀ v version, x.state v = .loaded version ↔
    ∃ m, Registry.Settled steps zone v (.loaded m) ∧ m.metadata.modelVersion = version
  rejected : ∀ v reason, x.state v = .rejected reason ↔ Registry.Settled steps zone v (.rejected reason)
  absent : ∀ v, x.state v = .absent ↔ ∀ step ∈ steps, step.settles? zone v = none
  declared : ∀ manifest, Registry.Declared steps zone manifest → x.manifest = manifest
  undeclared : (∀ step ∈ steps, step.declares? zone = none) → x.manifest = {}

-- What loading a zone gives, by the last steps for it.
structure Registry.LoadsBySteps (r : Registry) (steps : List Step) (zone : String) : Prop where
  available : (∃ e, r.load zone = .ok e) ↔ ∃ v m, Settled steps zone v (.loaded m)
  entry : ∀ e, r.load zone = .ok e → r.find? zone = some e
  corrupt : ∀ reason, r.load zone = .error (.corruptModel zone reason) ↔
    (∀ v m, ¬ Settled steps zone v (.loaded m)) ∧
      ∃ reasons, Rejections steps zone reasons ∧ reasons.isEmpty = false ∧ reason = reasonText reasons
  unknown : r.load zone = .error (.noModel zone) ↔
    (∀ v m, ¬ Settled steps zone v (.loaded m)) ∧ ∀ v reason, ¬ Settled steps zone v (.rejected reason)

section

variable (generation : Nat) (steps : List Registry.Step) (zone : String)

open Registry

theorem read_by_steps {e : ZoneEntry} (found : (ofSteps generation steps).find? zone = some e) :
    e.reading.BySteps steps zone where
  models v m := model_held.trans (loaded_settled generation found)
  loaded v version := by
    simp only [← loaded_settled generation found, ZoneEntry.reading]
    cases e.holding v <;> simp [Holding.state]
  rejected v reason := by
    simp only [← rejected_settled generation found, ZoneEntry.reading]
    cases e.holding v <;> simp [Holding.state]
  absent v := by
    simp only [← holding_absent generation found, ZoneEntry.reading]
    cases e.holding v <;> simp [Holding.state]
  declared := (manifest_latest generation found).1
  undeclared := (manifest_latest generation found).2

theorem zones_parted (r : Registry) :
    (r.contains zone = true ↔ zone ∈ r.availableZones ∨ zone ∈ r.unavailableZones) ∧
      ¬ (zone ∈ r.availableZones ∧ zone ∈ r.unavailableZones) := by
  simp only [availableZones, unavailableZones, Table.mem_keys, Table.get_filter_iff, contains, Table.contains]
  cases r.zones.get? zone with
  | none => simp
  | some e => cases available : e.isAvailable <;> simp [available]

theorem rejections_exist : ∃ reasons, Rejections steps zone reasons := by
  cases found : (ofSteps 0 steps).find? zone with
  | some e => exact ⟨_, entry_rejections 0 found⟩
  | none =>
      refine ⟨.empty, fun v reason => iff_of_false nofun fun settled => ?_⟩
      obtain ⟨e, there⟩ := find_settled 0 settled
      cases found.symm.trans there

theorem no_rejections {reasons : Table Variant String} (rejected : Rejections steps zone reasons) :
    reasons.isEmpty = true ↔ ∀ v reason, ¬ Settled steps zone v (.rejected reason) := by
  simp only [← rejected _ _, Table.isEmpty, List.isEmpty_iff, Table.get_iff_entry, List.eq_nil_iff_forall_not_mem,
    Prod.forall]

theorem loads_by_steps : (ofSteps generation steps).LoadsBySteps steps zone := by
  obtain ⟨reasons, rejected⟩ := rejections_exist steps zone
  by_cases some_model : ∃ v m, Settled steps zone v (.loaded m)
  · obtain ⟨e, loaded, found⟩ := load_with_model generation some_model
    have some_model' : ¬ ∀ v m, ¬ Settled steps zone v (.loaded m) := by simpa using some_model
    refine ⟨iff_of_true ⟨e, loaded⟩ some_model, fun e' loaded' => ?_, fun reason => ?_, ?_⟩
    · cases loaded.symm.trans loaded'
      exact found
    · rw [loaded]
      exact iff_of_false nofun fun ⟨bare, _⟩ => some_model' bare
    · rw [loaded]
      exact iff_of_false nofun fun ⟨bare, _⟩ => some_model' bare
  · have bare : ∀ v m, ¬ Settled steps zone v (.loaded m) := by simpa using some_model
    have load := load_without_models generation bare rejected
    have others : ∀ {others}, Rejections steps zone others → others = reasons := fun also => rejections_once also rejected
    have none := no_rejections steps zone rejected
    refine ⟨iff_of_false ?_ some_model, ?_, fun reason => ?_, ?_⟩
    · rintro ⟨e, loaded⟩
      cases load.symm.trans loaded
    · intro e loaded
      cases load.symm.trans loaded
    · rw [load]
      constructor
      · intro same
        split at same
        · cases same
        · rename_i some_reason
          cases same
          exact ⟨bare, reasons, rejected, by simpa using some_reason, rfl⟩
      · rintro ⟨_, reasons', also, some_reason, rfl⟩
        cases others also
        rw [some_reason]
        rfl
    · rw [load, ← none]
      cases reasons.isEmpty <;> simp [bare]

end

/-- For each zone and variant the last step decides that enters a model for it or rejects it: that model is there, with its
version told as loaded, or its reason is told, and where there is no such step the variant is absent. The manifest is the
one declared last. Two books that each step writes read the same. So the zones that were named are parted by whether
some variant is loaded, and to load one gives its entry, or else names the rejected variants with their reasons in
order, or else says that there is no model. Steps for different zones can change places. -/
theorem last_step_decides (generation : Nat) (steps : List Registry.Step) :
    (∀ zone,
      ((Registry.ofSteps generation steps).contains zone = true ↔ ∃ step ∈ steps, step.zone = zone) ∧
      (∀ e, (Registry.ofSteps generation steps).find? zone = some e → e.reading.BySteps steps zone) ∧
      ((steps.foldl ZoneBooks.enter .empty).get? zone).map ZoneBooks.reading =
        ((Registry.ofSteps generation steps).find? zone).map ZoneEntry.reading ∧
      (zone ∈ (Registry.ofSteps generation steps).availableZones ↔
        ∃ v m, Registry.Settled steps zone v (.loaded m)) ∧
      ((Registry.ofSteps generation steps).contains zone = true ↔
        zone ∈ (Registry.ofSteps generation steps).availableZones ∨
          zone ∈ (Registry.ofSteps generation steps).unavailableZones) ∧
      ¬ (zone ∈ (Registry.ofSteps generation steps).availableZones ∧
        zone ∈ (Registry.ofSteps generation steps).unavailableZones) ∧
      (Registry.ofSteps generation steps).LoadsBySteps steps zone) ∧
    ∀ before first second after, steps = before ++ first :: second :: after → first.zone ≠ second.zone →
      Registry.ofSteps generation (before ++ second :: first :: after) = Registry.ofSteps generation steps := by
  refine ⟨fun zone => ?_, ?_⟩
  · obtain ⟨parted, apart⟩ := zones_parted zone (Registry.ofSteps generation steps)
    exact ⟨contains_named generation, fun e => read_by_steps generation steps zone, books_reading generation steps zone,
      available_listed.trans (available_settled generation), parted, apart, loads_by_steps generation steps zone⟩
  · rintro before first second after rfl apart
    exact steps_apart generation apart.symm

namespace Sample

def entered : Registry.Step := .model "SCE" .baseline (model "SCE" .baseline defaultFeatures 18000)

def withdrawn : Registry.Step := .reject "SCE" .baseline "checksum mismatch"

def neighbour : Registry.Step := .model "SP15" .enhanced (model "SP15" .enhanced defaultFeatures 5249)

-- A model that is rejected after all, and one of another zone.
theorem withdrawn_last :
    (∃ e, (Registry.ofSteps 1 [entered, withdrawn, neighbour]).find? "SCE" = some e ∧
      e.reading.BySteps [entered, withdrawn, neighbour] "SCE") ∧
    "SP15" ∈ (Registry.ofSteps 1 [entered, withdrawn, neighbour]).availableZones ∧
    (Registry.ofSteps 1 [entered, withdrawn, neighbour]).load "SCE" =
      .error (.corruptModel "SCE" "baseline: checksum mismatch") ∧
    withdrawn.zone ≠ neighbour.zone ∧
    Registry.ofSteps 1 [entered, neighbour, withdrawn] = Registry.ofSteps 1 [entered, withdrawn, neighbour] := by
  obtain ⟨zones, swaps⟩ := last_step_decides 1 [entered, withdrawn, neighbour]
  obtain ⟨_, reads, _⟩ := zones "SCE"
  obtain ⟨_, _, _, available, _⟩ := zones "SP15"
  have last : Registry.Settled [entered, withdrawn, neighbour] "SP15" .enhanced
      (.loaded (model "SP15" .enhanced defaultFeatures 5249)) := ⟨[entered, withdrawn], neighbour, [], rfl, rfl, nofun⟩
  have apart : withdrawn.zone ≠ neighbour.zone := by decide
  exact ⟨⟨_, rfl, reads _ rfl⟩, available.mpr ⟨_, _, last⟩, rfl, apart, swaps [entered] _ _ [] rfl apart⟩

end Sample

end GridLoad
