import Mathlib.Data.List.Induction

/-!
The latest event of a history that set something, if nothing has dropped it since.
-/

set_option autoImplicit false

namespace GridLoad

variable {ε β : Type}

-- The latest that was set, where no later event sets anything else or drops it.
def Latest (sets : ε → Option β) (drops : ε → Bool) (history : List ε) (value : β) : Prop :=
  ∃ early e late, history = early ++ e :: late ∧ sets e = some value ∧
    ∀ e' ∈ late, sets e' = none ∧ drops e' = false

variable {sets : ε → Option β} {drops : ε → Bool} {history : List ε} {value : β} {e : ε}

theorem latest_nil : ¬ Latest sets drops [] value := by
  rintro ⟨early, e, late, split, _⟩
  simp at split

theorem latest_set (set : sets e = some value) : Latest sets drops (history ++ [e]) value :=
  ⟨history, e, [], rfl, set, by simp⟩

theorem latest_snoc : Latest sets drops (history ++ [e]) value ↔
    sets e = some value ∨ sets e = none ∧ drops e = false ∧ Latest sets drops history value := by
  constructor
  · rintro ⟨early, e', late, split, set, quiet⟩
    rcases List.eq_nil_or_concat late with rfl | ⟨before, last, rfl⟩
    · obtain ⟨_, same⟩ := List.append_inj' split rfl
      cases same
      exact .inl set
    · have parts : history ++ [e] = (early ++ e' :: before) ++ [last] := by simpa using split
      obtain ⟨same, ends⟩ := List.append_inj' parts rfl
      cases ends
      obtain ⟨none, kept⟩ := quiet e (by simp)
      exact .inr ⟨none, kept, early, e', before, same, set, fun e'' member => quiet e'' (by simp [member])⟩
  · rintro (set | ⟨none, kept, early, e', late, rfl, set, quiet⟩)
    · exact latest_set set
    · refine ⟨early, e', late ++ [e], by simp, set, fun e'' member => ?_⟩
      rcases List.mem_append.mp member with old | new
      · exact quiet e'' old
      · cases List.mem_singleton.mp new
        exact ⟨none, kept⟩

theorem latest_unset (none : sets e = none) (kept : drops e = false) :
    Latest sets drops (history ++ [e]) value ↔ Latest sets drops history value := by
  simp [latest_snoc, none, kept]

theorem latest_once {value' : β} (first : Latest sets drops history value) (second : Latest sets drops history value') :
    value = value' := by
  induction history using List.reverseRecOn with
  | nil => exact absurd first latest_nil
  | append_singleton before e ih =>
      rcases latest_snoc.mp first with set | ⟨none, _, first⟩
      · rcases latest_snoc.mp second with set' | ⟨none', _⟩
        · exact Option.some.inj (set.symm.trans set')
        · cases set.symm.trans none'
      · rcases latest_snoc.mp second with set' | ⟨_, _, second⟩
        · cases none.symm.trans set'
        · exact ih first second

-- Something was set unless nothing ever was.
theorem latest_or_never (history : List ε) :
    (∃ value, Latest sets (fun _ => false) history value) ∨ ∀ e ∈ history, sets e = none := by
  induction history using List.reverseRecOn with
  | nil => exact .inr nofun
  | append_singleton before e ih =>
      cases set : sets e with
      | some value => exact .inl ⟨value, latest_set set⟩
      | none =>
          rcases ih with ⟨value, latest⟩ | never
          · exact .inl ⟨value, (latest_unset set rfl).mpr latest⟩
          · refine .inr (List.forall_mem_append.mpr ⟨never, ?_⟩)
            exact List.forall_mem_singleton.mpr set

-- What each event sets, and otherwise leaves as it was, is in the end as it was set last.
theorem latest_read (sets : ε → Option β) (read : List ε → β)
    (reads : ∀ before e, read (before ++ [e]) = (sets e).getD (read before)) (history : List ε) :
    (∀ value, Latest sets (fun _ => false) history value → read history = value) ∧
      ((∀ e ∈ history, sets e = none) → read history = read []) := by
  induction history using List.reverseRecOn with
  | nil => exact ⟨fun _ latest => absurd latest latest_nil, fun _ => rfl⟩
  | append_singleton before e ih =>
      rw [reads]
      constructor
      · intro value latest
        rcases latest_snoc.mp latest with set | ⟨none, _, earlier⟩
        · rw [set, Option.getD_some]
        · rw [none, Option.getD_none, ih.1 value earlier]
      · intro never
        rw [never e (by simp), Option.getD_none, ih.2 fun e' member => never e' (by simp [member])]

end GridLoad
