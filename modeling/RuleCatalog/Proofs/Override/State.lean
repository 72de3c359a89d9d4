import Mathlib.Data.List.Basic
import RuleCatalog.Proofs.Override.Recognition

/-! # What entries stand for

The entries of a rule stand for its overrides by label and for whether it is silenced, and they
are determined by that. Main statement: `Represents.eq_state`. -/
namespace RuleCatalog.Override

/-- A rule whose labels may be overridden. -/
structure Subject where
  id : Identity
  alertName : String
  stated : Labels

/-- What the entries of a rule stand for. -/
structure State where
  overrides : Labels
  dropped : Bool
  deriving DecidableEq

namespace State

def initial : State := ⟨∅, false⟩

/-- The entries that stand for a state. -/
def entries (r : Subject) (s : State) : List RelabelEntry :=
  if s = initial then []
  else anchor r.id r.alertName r.stated :: s.overrides.toList.map (fun p => override r.id p.1 p.2)
    ++ if s.dropped then [silence r.id] else []

/-- Whether all labels may be overridden. -/
def IsValid (s : State) : Prop := ∀ k ∈ s.overrides.keys, checkLabel k = .ok ()

theorem isValid_initial : initial.IsValid := by
  intro k hk
  cases hk

end State

/-- Whether the entries of a rule in a list are those of a state. -/
structure Represents (r : Subject) (s : State) (es : List RelabelEntry) : Prop where
  isValid : s.IsValid
  filter_eq : es.filter (belongs r.id) = s.entries r

theorem ne_of_checkLabel {k : String} (h : checkLabel k = .ok ()) : k ≠ "" ∧ k ≠ Label.ruleId := by
  constructor
  · rintro rfl
    have he : checkLabel "" = .error (.invalidLabelName "") := rfl
    rw [he] at h
    cases h
  · rintro rfl
    have he : checkLabel Label.ruleId = .error (.protectedLabel Label.ruleId) := rfl
    rw [he] at h
    cases h

section entries
variable {r : Subject} {s : State} {id : Identity}

/-- The entries of a state, one after another. -/
theorem mem_entries {e : RelabelEntry} (h : e ∈ s.entries r) :
    e = anchor r.id r.alertName r.stated
      ∨ (∃ p ∈ s.overrides.toList, e = override r.id p.1 p.2) ∨ e = silence r.id := by
  unfold State.entries at h
  split at h
  · cases h
  · rw [List.mem_append, List.mem_cons, List.mem_map] at h
    rcases h with (rfl | ⟨p, hp, rfl⟩) | h
    · exact .inl rfl
    · exact .inr (.inl ⟨p, hp, rfl⟩)
    · split at h
      · exact .inr (.inr (List.mem_singleton.1 h))
      · cases h

/-- The entries of one rule do not belong to another. -/
theorem belongs_of_mem_entries_of_ne (hs : s.IsValid) (hid : id ≠ r.id) {e : RelabelEntry}
    (h : e ∈ s.entries r) : belongs id e = false := by
  rcases mem_entries h with rfl | ⟨p, hp, rfl⟩ | rfl
  · simp [belongs, isAnchor_anchor_of_ne hid, isScoped_anchor]
  · have hlabel := (ne_of_checkLabel (hs p.1 (List.mem_map_of_mem hp))).2
    simp [belongs, isAnchor_override hlabel, isScoped_override_of_ne hid]
  · simp [belongs, isAnchor_silence, isScoped_silence_of_ne hid]

/-- Overrides are read off their entries. -/
theorem filterMap_pair?_override {overrides : Labels}
    (h : ∀ k ∈ overrides.keys, k ≠ "" ∧ k ≠ Label.ruleId) :
    (overrides.toList.map fun p => override id p.1 p.2).filterMap (pair? id)
      = overrides.toList := by
  have hsome : ∀ p ∈ overrides.toList,
      (pair? id ∘ fun p => override id p.1 p.2) p = some p := fun p hp => by
    obtain ⟨hempty, hid⟩ := h p.1 (List.mem_map_of_mem hp)
    exact pair?_override hempty hid
  rw [List.filterMap_map, List.filterMap_congr hsome, List.filterMap_some]

theorem current_entries (hs : s.IsValid) : current r.id (s.entries r) = s.overrides := by
  unfold State.entries
  split
  · rename_i h
    rw [h]
    rfl
  · have hpairs : (s.overrides.toList.map fun p => override r.id p.1 p.2).filterMap (pair? r.id)
        = s.overrides.toList := filterMap_pair?_override fun k hk => ne_of_checkLabel (hs k hk)
    have hsilence : (if s.dropped then [silence r.id] else []).filterMap (pair? r.id) = [] := by
      split
      · rw [List.filterMap_cons, pair?_silence]
        rfl
      · rfl
    unfold current
    rw [List.cons_append, List.filterMap_cons, pair?_anchor, List.filterMap_append, hpairs,
      hsilence, List.append_nil, SortedMap.ofList_toList]

theorem isDropped_entries : isDropped r.id (s.entries r) = s.dropped := by
  unfold State.entries
  split
  · rename_i h
    rw [h]
    rfl
  · have hoverrides : (s.overrides.toList.map fun p => override r.id p.1 p.2).any
        (isSilence r.id) = false := by
      rw [List.any_eq_false]
      intro e he
      obtain ⟨p, -, rfl⟩ := List.mem_map.1 he
      simp [isSilence_override]
    unfold isDropped
    rw [List.cons_append, List.any_cons, isSilence_anchor, List.any_append, hoverrides]
    cases s.dropped
    · rfl
    · simp [isSilence_silence]

theorem any_isAnchor_entries :
    (s.entries r).any (isAnchor r.id) = decide (s ≠ .initial) := by
  unfold State.entries
  split
  · rename_i h
    simp [h]
  · rename_i h
    simp [h, isAnchor_anchor]

end entries

namespace Represents
variable {r : Subject} {s s' : State} {es : List RelabelEntry}

theorem current_eq (h : Represents r s es) : current r.id es = s.overrides := by
  rw [← current_filter_belongs, h.filter_eq, current_entries h.isValid]

theorem isDropped_eq (h : Represents r s es) : isDropped r.id es = s.dropped := by
  rw [← isDropped_filter_belongs, h.filter_eq, isDropped_entries]

theorem any_isAnchor_eq (h : Represents r s es) :
    es.any (isAnchor r.id) = decide (s ≠ .initial) := by
  rw [← any_filter_belongs fun _ => belongs_of_isAnchor, h.filter_eq,
    any_isAnchor_entries]

/-- A list of entries stands for one state only. -/
theorem eq_state (h : Represents r s es) (h' : Represents r s' es) : s = s' := by
  have ho : s.overrides = s'.overrides := h.current_eq.symm.trans h'.current_eq
  have hd : s.dropped = s'.dropped := h.isDropped_eq.symm.trans h'.isDropped_eq
  cases s
  cases s'
  simp_all

end Represents

end RuleCatalog.Override
