import GridLoad.Zone.Directory

/-!
The registry that is served, and the number of the next one. A number is given to one registry only, also
when that registry could not be read.
-/

set_option autoImplicit false

namespace GridLoad

structure Publication where
  current : Registry
  next : Nat

instance : Inhabited Publication := ⟨⟨default, 1⟩⟩

def generationLimit : Nat := wordLimit 64

namespace Publication

def first (r : Registry) : Publication := ⟨r, (r.generation + 1) % generationLimit⟩

def publish (r : Registry) (p : Publication) : Publication :=
  ⟨r, max p.next ((r.generation + 1) % generationLimit)⟩

def allocate (p : Publication) : Publication × Nat := ({ p with next := (p.next + 1) % generationLimit }, p.next)

/-- Reads a model directory under the next generation and serves what it holds. -/
def reload (files : Files) (root : Path) (p : Publication) : Publication × Except String Registry :=
  let (p, generation) := p.allocate
  match Registry.ofDirectory files root generation with
  | .ok r => (p.publish r, .ok r)
  | .error reason => (p, .error reason)

end Publication

end GridLoad
