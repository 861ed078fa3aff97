/-!
Finite maps kept in increasing key order, so that a table has one written form and two tables with
the same entries are equal. The view is `entries`; `get?` answers look-ups, and `insert` replaces.
-/

set_option autoImplicit false

namespace GridLoad

/-- A strict linear order on keys. -/
class KeyOrder (κ : Type) [LT κ] : Prop where
  before_trans : ∀ {a b c : κ}, a < b → b < c → a < c
  before_irrefl : ∀ a : κ, ¬ a < a
  before_total : ∀ a b : κ, a < b ∨ a = b ∨ b < a

instance : KeyOrder Nat where
  before_trans := Nat.lt_trans
  before_irrefl := Nat.lt_irrefl
  before_total a b := by omega

instance : KeyOrder String where
  before_trans := String.lt_trans
  before_irrefl := String.lt_irrefl
  before_total a b := by
    by_cases less : a < b
    · exact .inl less
    · by_cases more : b < a
      · exact .inr (.inr more)
      · exact .inr (.inl (String.le_antisymm (String.not_lt.mp more) (String.not_lt.mp less)))

/-- Entries in increasing key order, each key once. -/
structure Table (κ α : Type) [LT κ] where
  entries : List (κ × α)
  increasing : entries.Pairwise fun a b => a.1 < b.1

namespace Table

variable {κ α β : Type} [LT κ]

instance [DecidableEq κ] [DecidableEq α] : DecidableEq (Table κ α) := fun s t =>
  if same : s.entries = t.entries then
    .isTrue (by cases s; cases t; cases same; rfl)
  else
    .isFalse fun equal => same (congrArg entries equal)

def empty : Table κ α := ⟨[], .nil⟩

instance : EmptyCollection (Table κ α) := ⟨empty⟩

instance : Inhabited (Table κ α) := ⟨empty⟩

def keys (t : Table κ α) : List κ := t.entries.map (·.1)

def values (t : Table κ α) : List α := t.entries.map (·.2)

def size (t : Table κ α) : Nat := t.entries.length

def isEmpty (t : Table κ α) : Bool := t.entries.isEmpty

def get? [DecidableEq κ] (t : Table κ α) (key : κ) : Option α :=
  (t.entries.find? fun e => e.1 = key).map (·.2)

def contains [DecidableEq κ] (t : Table κ α) (key : κ) : Bool := (t.get? key).isSome

def map (f : κ → α → β) (t : Table κ α) : Table κ β where
  entries := t.entries.map fun e => (e.1, f e.1 e.2)
  increasing := by
    simpa [List.pairwise_map] using t.increasing

def filter (keep : κ → α → Bool) (t : Table κ α) : Table κ α where
  entries := t.entries.filter fun e => keep e.1 e.2
  increasing := t.increasing.filter _

def filterMap (f : κ → α → Option β) (t : Table κ α) : Table κ β where
  entries := t.entries.filterMap fun e => (f e.1 e.2).map (e.1, ·)
  increasing := by
    rw [List.pairwise_filterMap]
    apply t.increasing.imp
    intro a b less x hx y hy
    simp only [Option.map_eq_some_iff] at hx hy
    obtain ⟨_, _, rfl⟩ := hx
    obtain ⟨_, _, rfl⟩ := hy
    exact less

def erase [DecidableEq κ] (t : Table κ α) (key : κ) : Table κ α :=
  t.filter fun k _ => k ≠ key

def insertEntry [DecidableLT κ] [DecidableEq κ] (key : κ) (value : α) : List (κ × α) → List (κ × α)
  | [] => [(key, value)]
  | e :: rest =>
      if key < e.1 then (key, value) :: e :: rest
      else if key = e.1 then (key, value) :: rest
      else e :: insertEntry key value rest

section Insert

variable [DecidableLT κ] [DecidableEq κ]

theorem mem_insert_entry {key : κ} {value : α} {entries : List (κ × α)} {e : κ × α}
    (member : e ∈ insertEntry key value entries) : e = (key, value) ∨ e ∈ entries := by
  induction entries with
  | nil => simpa [insertEntry] using member
  | cons head rest ih =>
      rw [insertEntry] at member
      split at member
      · simpa using member
      · split at member
        · simp only [List.mem_cons] at member ⊢
          exact member.imp_right .inr
        · simp only [List.mem_cons] at member ⊢
          rcases member with rfl | later
          · exact .inr (.inl rfl)
          · exact (ih later).imp_right .inr

theorem insert_entry_increasing [KeyOrder κ] (key : κ) (value : α) {entries : List (κ × α)}
    (increasing : entries.Pairwise fun a b => a.1 < b.1) :
    (insertEntry key value entries).Pairwise fun a b => a.1 < b.1 := by
  induction entries with
  | nil => simp [insertEntry]
  | cons head rest ih =>
      have parts := List.pairwise_cons.mp increasing
      rw [insertEntry]
      split
      · rename_i before
        refine List.pairwise_cons.mpr ⟨fun e member => ?_, increasing⟩
        rcases List.mem_cons.mp member with rfl | later
        · exact before
        · exact KeyOrder.before_trans before (parts.1 e later)
      · rename_i notBefore
        split
        · rename_i same
          exact List.pairwise_cons.mpr ⟨fun e member => same ▸ parts.1 e member, parts.2⟩
        · rename_i different
          have after : head.1 < key := by
            rcases KeyOrder.before_total key head.1 with less | same | more
            · exact absurd less notBefore
            · exact absurd same different
            · exact more
          refine List.pairwise_cons.mpr ⟨fun e member => ?_, ih parts.2⟩
          rcases mem_insert_entry member with rfl | later
          · exact after
          · exact parts.1 e later

def insert [KeyOrder κ] (t : Table κ α) (key : κ) (value : α) : Table κ α :=
  ⟨insertEntry key value t.entries, insert_entry_increasing key value t.increasing⟩

-- Changes the value of a key, which is first entered with `fresh` where it is missing.
def modify [KeyOrder κ] (t : Table κ α) (key : κ) (fresh : α) (f : α → α) : Table κ α :=
  t.insert key (f ((t.get? key).getD fresh))

-- Of entries with one key the last stays.
def ofList [KeyOrder κ] (entries : List (κ × α)) : Table κ α :=
  entries.foldl (fun t e => t.insert e.1 e.2) empty

theorem find_insert_entry_self (key : κ) (value : α) (entries : List (κ × α)) :
    (insertEntry key value entries).find? (fun e => e.1 = key) = some (key, value) := by
  induction entries with
  | nil => simp [insertEntry]
  | cons head rest ih =>
      rw [insertEntry]
      split
      · simp
      · split
        · simp
        · rename_i different
          rw [List.find?_cons_of_neg (by simpa using fun same => different same.symm)]
          exact ih

theorem find_insert_entry_other (key other : κ) (value : α) (entries : List (κ × α))
    (different : other ≠ key) :
    (insertEntry key value entries).find? (fun e => e.1 = other) =
      entries.find? (fun e => e.1 = other) := by
  have skip : ¬ (decide (key = other) = true) := by simpa using fun same => different same.symm
  induction entries with
  | nil => simp [insertEntry, Ne.symm different]
  | cons head rest ih =>
      rw [insertEntry]
      split
      · exact List.find?_cons_of_neg skip
      · split
        · rename_i same
          have skipHead : ¬ (decide (head.1 = other) = true) := same ▸ skip
          simp only [List.find?_cons, skip, skipHead]
        · by_cases hit : head.1 = other
          · rw [List.find?_cons_of_pos (by simpa using hit), List.find?_cons_of_pos (by simpa using hit)]
          · rw [List.find?_cons_of_neg (by simpa using hit), List.find?_cons_of_neg (by simpa using hit)]
            exact ih

@[simp] theorem get_insert_self [KeyOrder κ] (t : Table κ α) (key : κ) (value : α) :
    (t.insert key value).get? key = some value := by
  simp [get?, insert, find_insert_entry_self]

theorem get_insert_other [KeyOrder κ] (t : Table κ α) (key other : κ) (value : α)
    (different : other ≠ key) : (t.insert key value).get? other = t.get? other := by
  simp [get?, insert, find_insert_entry_other key other value t.entries different]

end Insert

@[simp] theorem get_empty [DecidableEq κ] (key : κ) : (empty : Table κ α).get? key = none := rfl

section Lookup

variable [DecidableEq κ]

theorem entry_of_get {t : Table κ α} {key : κ} {value : α} (found : t.get? key = some value) :
    (key, value) ∈ t.entries := by
  simp only [get?, Option.map_eq_some_iff] at found
  obtain ⟨e, hit, rfl⟩ := found
  have same : e.1 = key := by simpa using List.find?_some hit
  exact same ▸ List.mem_of_find?_eq_some hit

theorem get_of_entry [KeyOrder κ] {t : Table κ α} {key : κ} {value : α} (member : (key, value) ∈ t.entries) :
    t.get? key = some value := by
  have increasing := t.increasing
  simp only [get?]
  generalize t.entries = entries at member increasing
  induction entries with
  | nil => simp at member
  | cons head rest ih =>
      have parts := List.pairwise_cons.mp increasing
      rcases List.mem_cons.mp member with rfl | later
      · simp
      · have before : head.1 < key := parts.1 (key, value) later
        have different : head.1 ≠ key := fun same => KeyOrder.before_irrefl key (same ▸ before)
        rw [List.find?_cons_of_neg (by simpa using different)]
        exact ih later parts.2

theorem get_iff_entry [KeyOrder κ] {t : Table κ α} {key : κ} {value : α} :
    t.get? key = some value ↔ (key, value) ∈ t.entries := ⟨entry_of_get, get_of_entry⟩

theorem get_filter_iff [KeyOrder κ] {t : Table κ α} {keep : κ → α → Bool} {key : κ} {value : α} :
    (t.filter keep).get? key = some value ↔ t.get? key = some value ∧ keep key value = true := by
  simp [get_iff_entry, filter, List.mem_filter]

theorem get_insert_some [DecidableLT κ] [KeyOrder κ] {t : Table κ α} {key other : κ} {value found : α}
    (hit : (t.insert key value).get? other = some found) :
    other = key ∧ found = value ∨ t.get? other = some found := by
  by_cases same : other = key
  · subst same
    rw [get_insert_self] at hit
    exact .inl ⟨rfl, (Option.some.inj hit).symm⟩
  · rw [get_insert_other t key other value same] at hit
    exact .inr hit

end Lookup

end Table

end GridLoad
