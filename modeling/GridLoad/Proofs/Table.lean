import Mathlib.Data.List.Sort
import GridLoad.Table

/-!
What a table answers once it was mapped, filtered or laid under another one, and how many entries are left. The answers
to look-ups are all that there is to a table.
-/

set_option autoImplicit false

namespace GridLoad.Table

variable {κ α β : Type} [LT κ]

section

variable [DecidableEq κ]

theorem get_map (t : Table κ α) (f : κ → α → β) (key : κ) : (t.map f).get? key = (t.get? key).map (f key) := by
  simp only [get?, map]
  induction t.entries with
  | nil => rfl
  | cons e rest ih =>
      rw [List.map_cons]
      by_cases hit : e.1 = key
      · rw [List.find?_cons_of_pos (by simpa using hit), List.find?_cons_of_pos (by simpa using hit)]
        simp only [Option.map_some, hit]
      · rw [List.find?_cons_of_neg (by simpa using hit), List.find?_cons_of_neg (by simpa using hit)]
        exact ih

theorem contains_iff {t : Table κ α} {key : κ} : t.contains key = true ↔ ∃ value, t.get? key = some value :=
  Option.isSome_iff_exists

variable [KeyOrder κ]

theorem get_filter {t : Table κ α} {keep : κ → α → Bool} {key : κ} :
    (t.filter keep).get? key = (t.get? key).filter (keep key) := by
  ext value
  rw [get_filter_iff, Option.filter_eq_some_iff]

theorem get_erase (t : Table κ α) (key other : κ) :
    (t.erase key).get? other = if key = other then none else t.get? other := by
  rw [erase, get_filter]
  by_cases same : key = other
  · cases t.get? other <;> simp [same]
  · cases t.get? other <;> simp [same, Ne.symm same]

theorem mem_keys {t : Table κ α} {key : κ} : key ∈ t.keys ↔ ∃ value, t.get? key = some value := by
  simp [keys, get_iff_entry]

-- There is one table for any answers to look-ups.
theorem ext_get {t u : Table κ α} (same : ∀ key, t.get? key = u.get? key) : t = u := by
  have members : ∀ e, e ∈ t.entries ↔ e ∈ u.entries := by
    rintro ⟨key, value⟩
    rw [← get_iff_entry, ← get_iff_entry, same]
  have : Std.Irrefl fun a b : κ × α => a.1 < b.1 := ⟨fun a => KeyOrder.before_irrefl a.1⟩
  have : Std.Antisymm fun a b : κ × α => a.1 < b.1 :=
    ⟨fun a _ less more => absurd (KeyOrder.before_trans less more) (KeyOrder.before_irrefl a.1)⟩
  have entries : t.entries = u.entries := t.increasing.eq_of_mem_iff u.increasing members
  cases t
  cases u
  cases entries
  rfl

end

section

variable [DecidableLT κ] [DecidableEq κ] [KeyOrder κ]

theorem get_insert (t : Table κ α) (key other : κ) (value : α) :
    (t.insert key value).get? other = if key = other then some value else t.get? other := by
  split
  · rename_i same
    rw [← same, get_insert_self]
  · rename_i different
    exact get_insert_other t key other value (Ne.symm different)

theorem contains_insert (t : Table κ α) (key other : κ) (value : α) :
    (t.insert key value).contains other = (decide (key = other) || t.contains other) := by
  by_cases same : key = other <;> simp [contains, get_insert, same]

-- A key after all others is entered at the end.
theorem insert_entry_last {key : κ} {value : α} {entries : List (κ × α)} (last : ∀ e ∈ entries, e.1 < key) :
    insertEntry key value entries = entries ++ [(key, value)] := by
  induction entries with
  | nil => rfl
  | cons e rest ih =>
      have before : e.1 < key := last e List.mem_cons_self
      have after : ¬ key < e.1 := fun less => KeyOrder.before_irrefl key (KeyOrder.before_trans less before)
      have other : key ≠ e.1 := fun same => KeyOrder.before_irrefl key (same ▸ before)
      rw [insertEntry, if_neg after, if_neg other, ih fun e member => last e (List.mem_cons_of_mem _ member)]
      rfl

theorem foldl_insert {entries : List (κ × α)} (t : Table κ α)
    (increasing : (t.entries ++ entries).Pairwise fun a b => a.1 < b.1) :
    (entries.foldl (fun t e => t.insert e.1 e.2) t).entries = t.entries ++ entries := by
  induction entries generalizing t with
  | nil => simp
  | cons e rest ih =>
      have last : ∀ other ∈ t.entries, other.1 < e.1 := fun other member =>
        (List.pairwise_append.mp increasing).2.2 other member e List.mem_cons_self
      have entered : (t.insert e.1 e.2).entries = t.entries ++ [e] := insert_entry_last last
      rw [List.foldl_cons, ih (t.insert e.1 e.2) (by simpa [entered] using increasing), entered]
      simp

-- A table's own entries, in their order, make it again.
theorem of_list_entries (t : Table κ α) : ofList t.entries = t := by
  have entries : (ofList t.entries).entries = t.entries := foldl_insert empty t.increasing
  cases made : ofList t.entries
  cases t
  simp only [made] at entries
  cases entries
  rfl

-- Entries that are put into a table one after another, where no key comes twice.
theorem get_inserted {entries : List (κ × α)} (once : (entries.map (·.1)).Nodup) (t : Table κ α) (key : κ) :
    (entries.foldl (fun t e => t.insert e.1 e.2) t).get? key =
      ((entries.find? fun e => e.1 = key).map (·.2)).or (t.get? key) := by
  induction entries generalizing t with
  | nil => rfl
  | cons e rest ih =>
      obtain ⟨later, others⟩ := List.nodup_cons.mp once
      rw [List.foldl_cons, ih others]
      rw [get_insert]
      by_cases hit : e.1 = key
      · have last : rest.find? (fun e => e.1 = key) = none := by
          refine List.find?_eq_none.mpr fun other member same => later ?_
          exact List.mem_map.mpr ⟨other, member, (of_decide_eq_true same).trans hit.symm⟩
        rw [last, List.find?_cons_of_pos (by simpa using hit), if_pos hit]
        rfl
      · rw [List.find?_cons_of_neg (by simpa using hit), if_neg hit]

theorem get_of_list {entries : List (κ × α)} (once : (entries.map (·.1)).Nodup) {key : κ} {value : α} :
    (ofList entries).get? key = some value ↔ (key, value) ∈ entries := by
  rw [ofList, get_inserted once, get_empty, Option.or_none, Option.map_eq_some_iff]
  constructor
  · rintro ⟨e, found, rfl⟩
    have same : e.1 = key := by simpa using List.find?_some found
    exact same ▸ List.mem_of_find?_eq_some found
  · intro member
    have some_entry : (entries.find? fun e => e.1 = key).isSome = true :=
      List.find?_isSome.mpr ⟨(key, value), member, by simp⟩
    obtain ⟨e, found⟩ := Option.isSome_iff_exists.mp some_entry
    have hit : e.1 = key := by simpa using List.find?_some found
    have same : e = (key, value) := List.inj_on_of_nodup_map once (List.mem_of_find?_eq_some found) member hit
    exact ⟨e, found, congrArg Prod.snd same⟩

-- The entries of both tables, and those of the later one where both have some.
def overlay (t later : Table κ α) : Table κ α := later.entries.foldl (fun t e => t.insert e.1 e.2) t

end

theorem keys_nodup [KeyOrder κ] (t : Table κ α) : t.keys.Nodup := by
  refine List.pairwise_map.mpr (t.increasing.imp fun {a b} less same => ?_)
  exact KeyOrder.before_irrefl b.1 (same ▸ less)

section

variable [DecidableLT κ] [DecidableEq κ] [KeyOrder κ] (t later : Table κ α)

theorem get_overlay (key : κ) : (t.overlay later).get? key = (later.get? key).or (t.get? key) :=
  get_inserted later.keys_nodup t key

theorem contains_overlay (key : κ) : (t.overlay later).contains key = (t.contains key || later.contains key) := by
  rw [contains, contains, contains, get_overlay, Option.isSome_or, Bool.or_comm]

theorem overlay_self : t.overlay t = t := ext_get fun key => (get_overlay t t key).trans Option.or_self

end

theorem filter_all (t : Table κ α) : (t.filter fun _ _ => true) = t := by
  simp only [filter, List.filter_true]

theorem filter_filter (t : Table κ α) (keep also : κ → α → Bool) :
    (t.filter keep).filter also = t.filter fun key value => keep key value && also key value := by
  simp only [filter, List.filter_filter, Bool.and_comm]

-- Whatever is kept or dropped is counted once.
theorem size_filter (t : Table κ α) (drop : κ → α → Bool) :
    t.size = (t.filter fun key value => !drop key value).size + (t.filter drop).keys.length := by
  simp only [size, keys, filter, List.length_map]
  rw [Nat.add_comm, ← List.countP_eq_length_filter, ← List.countP_eq_length_filter]
  simpa using List.length_eq_countP_add_countP fun e : κ × α => drop e.1 e.2

theorem size_insert_le [DecidableLT κ] [DecidableEq κ] [KeyOrder κ] (t : Table κ α) (key : κ) (value : α) :
    (t.insert key value).size ≤ t.size + 1 := by
  simp only [size, insert]
  induction t.entries with
  | nil => simp [insertEntry]
  | cons e rest ih =>
      rw [insertEntry]
      split
      · simp
      · split
        · simp
        · simpa using ih

end GridLoad.Table
