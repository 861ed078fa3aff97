import GridLoad.Proofs.Serving.Redeployed
import GridLoad.Proofs.Serving.Refusals

/-!
Listings of the zones. A web request for one takes the served registry twice, once for its number and once for its
zones, so that a registry that is served in between is listed under the number of the one before.
-/

set_option autoImplicit false

namespace GridLoad

open Program

def Web.Request.Lists (q : Web.Request) : Prop := Web.Route.ofPath? q.path = some .zones ∧ q.method = .get

-- What is told of a registry by itself.
def Web.listingOf (v : Service) (number zones : Registry) : Outcome Web.Response :=
  .ok (.ok (Web.zonesJson number.generation (zoneSummaries v.setup.catalog zones)))

theorem web_zones_program {v : Service} {q : Web.Request} (lists : q.Lists) :
    Web.Api.answer v q = act .registry >>= fun number => act .registry >>= fun zones =>
      pure (Web.listingOf v number zones) := by
  obtain ⟨route, method⟩ := lists
  unfold Web.Api.answer
  rw [route, method]
  rfl

-- A program that begins with a look at the registry has seen one that was served.
theorem leads_registry {v : Service} {w : World} {α : Type} {next : Registry → Serve α} {t : Transcript} {value : α}
    (vouched : ∀ x ∈ t, w.ledger.Vouches v.setup x.question x.answer)
    (leads : Leads (act .registry >>= next) t (.done value)) :
    ∃ r ∈ w.history.published, ∃ later, t = ⟨.act .registry, r⟩ :: later ∧ Leads (next r) later (.done value) := by
  cases leads with
  | further later => exact ⟨_, vouched _ List.mem_cons_self, _, rfl, later⟩

/-- A web listing has the number of one served registry and the zones of another, and is of a single one where no two
were served in between. What is listed without a web request is of a single registry. -/
theorem listings_read {v : Service} {first : Registry} {w : World} (reachable : Reachable v first w)
    (counted : w.Counted first) :
    (∀ q : Web.Request, q.Lists → ∀ t response, w.Answered (.web q) t response →
      ∃ number ∈ w.history.published, ∃ zones ∈ w.history.published,
        t = [⟨.act .registry, number⟩, ⟨.act .registry, zones⟩] ∧ response = Web.listingOf v number zones ∧
        (number.generation = zones.generation → number = zones)) ∧
    ∀ t listed, w.Answered .zones t listed →
      ∃ r ∈ w.history.published, t = [⟨.act .registry, r⟩] ∧ listed = zoneSummaries v.setup.catalog r := by
  constructor
  · intro q lists t response answered
    have vouched := answered_vouched reachable answered
    have leads : Leads (Web.Api.answer v q) t (.done response) := answered_leads reachable answered
    rw [web_zones_program lists] at leads
    obtain ⟨number, served, later, rfl, further⟩ := leads_registry vouched leads
    obtain ⟨zones, served', rest, rfl, ends⟩ :=
      leads_registry (fun x among => vouched x (List.mem_cons_of_mem _ among)) further
    obtain ⟨rfl, told⟩ := leads_done ends
    cases told
    exact ⟨number, served, zones, served', rfl, rfl, numbered_once (reachable_numbered reachable counted) served served'⟩
  · intro t listed answered
    have leads : Leads v.zones t (.done listed) := answered_leads reachable answered
    obtain ⟨r, served, rest, rfl, ends⟩ := leads_registry (answered_vouched reachable answered) leads
    obtain ⟨rfl, told⟩ := leads_done ends
    cases told
    exact ⟨r, served, rfl, rfl⟩

namespace Sample

/-! A listing that has taken the number when a reload serves a registry without zones, and takes the zones then. -/

def listing : Web.Request := { method := .get, target := "/v1/zones" }

def emptied : Registry := { generation := 2, root := some modelRoot, zones := zonesOf modelRoot [] }

def numbered : World := reading.play stored.service [.arrive (.web listing), .go 1]

def cleared : World := { numbered with engine := { numbered.engine with files := directoryOf [] } }

@[irreducible] def torn : World := (cleared.reads 0 emptied).play stored.service (List.replicate 20 (.go 0) ++ [.go 1])

-- The number of a listing, and how many zones it has.
def outline : Outcome Web.Response → Option (Json.Lexeme × Nat)
  | .ok ⟨_, .document (.object [(_, .number generation), (_, .array zones)])⟩ => some (generation, zones.length)
  | _ => none

theorem torn_evaluated :
    numbered.flights[0]?.any (Flight.isReading modelRoot 2) = true ∧ torn.history.numbers = [2] ∧
    torn.answers (.web listing) (fun response => torn.history.published.all fun r =>
      outline response ≠ outline (Web.listingOf stored.service r r)) = true := by decide +kernel

theorem torn_reachable : Reachable stored.service (storedRegistry 1) torn := by
  obtain ⟨_, _, accepted, _⟩ := evaluated
  obtain ⟨reads, _⟩ := torn_evaluated
  have begun : Reachable stored.service (storedRegistry 1) cleared :=
    files_reachable (play_reachable (play_reachable (.launched accepted stored_started) _) _) _
  have read : Registry.ofDirectory cleared.engine.files modelRoot 2 = .ok emptied :=
    directory_loaded (directory_of_listed []) 2
  unfold torn
  exact play_reachable (reads_reachable begun reads read) _

-- The number of one registry, and the zones of the next.
theorem listing_torn : ¬ ∀ w : World, Reachable stored.service (storedRegistry 1) w → w.Counted (storedRegistry 1) →
    ∀ t response, w.Answered (.web listing) t response →
      ∃ r ∈ w.history.published, response = Web.listingOf stored.service r r := by
  intro single
  obtain ⟨_, numbers, answers⟩ := torn_evaluated
  have counted : torn.Counted (storedRegistry 1) := by
    rw [World.Counted, numbers]
    decide
  obtain ⟨t, response, answered, torn⟩ := answers_answered answers
  obtain ⟨r, served, rfl⟩ := single _ torn_reachable counted t response answered
  exact of_decide_eq_true (List.all_eq_true.mp torn r served) rfl

end Sample

end GridLoad
