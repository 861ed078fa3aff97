import GridLoad.Proofs.Serving.World

/-!
A service with one client, who puts one request after another, lets time pass in between and may change what is outside
the service: the files, the source and the clock on the wall.
-/

set_option autoImplicit false

namespace GridLoad

open GridLoad.Time (Span Timestamp)

inductive Deed where
  -- A request is put and waited for.
  | serve (budget : Option Span) (ask : Ask)
  | pass (millis : Nat)
  | sleep (millis : Nat)
  | outside (files : Files) (source : Source) (wall : Timestamp)

abbrev Told : Type := (ask : Ask) × ask.Answer

namespace Engine

def outside (files : Files) (source : Source) (wall : Timestamp) (e : Engine) : Engine :=
  { e with files := files, source := source, clock := { e.clock with wall := wall } }

-- What a deed leaves, and what the client is told.
def does (v : Service) (e : Engine) : Deed → Engine × Option Told
  | .serve budget ask =>
      let (e, answer) := e.serve ⟨budget, ask.program v⟩
      (e, some ⟨ask, answer⟩)
  | .pass millis => (e.pass millis, none)
  | .sleep millis => (e.sleep millis, none)
  | .outside files source wall => (e.outside files source wall, none)

-- What deeds in turn leave, and what the client is told of each.
def driven (v : Service) : List Deed → Engine → Engine × List (Option Told)
  | [], e => (e, [])
  | deed :: rest, e =>
      let (e, told) := e.does v deed
      let (e, others) := driven v rest e
      (e, told :: others)

end Engine

end GridLoad
