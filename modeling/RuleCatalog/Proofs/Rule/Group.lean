import Mathlib.Data.List.Nodup
import RuleCatalog.Proofs.Rule.Edit

/-! # Edits and identities

What an edit does to the identities of a resource: adding a rule adds its identity, and replacing
or removing one takes one rule with its identity away.
Main statements: `isDistinct_add_iff`, `isDistinct_replace?_iff` and `IsDistinct.remove?`, which
edits keep the rules of a resource apart. -/
namespace RuleCatalog.RuleResource

/-- The identities of the rules, in order. -/
def identities (r : RuleResource) : List Identity := r.rules.map fun p => Identity.ofRule p.2

/-- Whether no two rules have the same identity. -/
def IsDistinct (r : RuleResource) : Prop := r.identities.Nodup

instance (r : RuleResource) : Decidable r.IsDistinct := inferInstanceAs (Decidable (List.Nodup _))

variable {r r' : RuleResource} {id : Identity} {rule : Rule}

theorem contains_iff : r.contains id = true ↔ id ∈ r.identities := by
  simp [contains, identities, List.any_eq_true, List.mem_map]

/-! ## Adding -/

theorem identities_add (r : RuleResource) (group : String) (rule : Rule) :
    (r.add group rule).identities.Perm (Identity.ofRule rule :: r.identities) := by
  obtain ⟨s, -, -, -, hspot, hadd⟩ := addTo_eq_fill group rule r.groups
  rw [identities, identities, rules_of_spot hspot, rules_fill (r := r.add group rule) hadd]
  simp

theorem isDistinct_add_iff (group : String) : (r.add group rule).IsDistinct
    ↔ r.contains (Identity.ofRule rule) = false ∧ r.IsDistinct := by
  rw [← Bool.not_eq_true, contains_iff]
  exact (identities_add r group rule).nodup_iff.trans List.nodup_cons

/-! ## Replacing and removing -/

theorem identities_of_replace? (h : r.replace? id rule = some r') :
    ∃ l t, r.identities = l ++ id :: t ∧ r'.identities = l ++ Identity.ofRule rule :: t := by
  have hid : r.contains id = true := by rw [← isSome_replace? r id rule, h, Option.isSome_some]
  obtain ⟨s, x, hr, rfl, hs⟩ := exists_isFirst hid
  obtain rfl := Option.some.inj ((replace?_eq_some hr hs rfl).symm.trans h)
  refine ⟨s.before.map fun p => Identity.ofRule p.2, s.after.map fun p => Identity.ofRule p.2, ?_, ?_⟩
  · rw [identities, rules_fill hr]
    simp
  · rw [identities, rules_fill (r := { r with groups := s.fill [rule] }) rfl]
    simp

theorem identities_of_remove? (h : r.remove? id = some r') :
    ∃ l t, r.identities = l ++ id :: t ∧ r'.identities = l ++ t := by
  have hid : r.contains id = true := by
    rw [← Bool.not_eq_false, ← remove?_eq_none_iff, h]
    exact Option.some_ne_none r'
  obtain ⟨s, x, hr, rfl, hs⟩ := exists_isFirst hid
  obtain rfl := Option.some.inj ((remove?_eq_some hr hs rfl).symm.trans h)
  refine ⟨s.before.map fun p => Identity.ofRule p.2, s.after.map fun p => Identity.ofRule p.2, ?_, ?_⟩
  · rw [identities, rules_fill hr]
    simp
  · rw [identities, rules_withoutEmpty, rules_fill (r := { r with groups := s.fill [] }) rfl]
    simp

/-- A rule may take the place of another one if no further one is the same. -/
theorem isDistinct_replace?_iff (hr : r.IsDistinct) (hne : Identity.ofRule rule ≠ id)
    (h : r.replace? id rule = some r') :
    r'.IsDistinct ↔ r.contains (Identity.ofRule rule) = false := by
  obtain ⟨l, t, hold, hnew⟩ := identities_of_replace? h
  rw [IsDistinct, hold, List.nodup_middle, List.nodup_cons] at hr
  rw [IsDistinct, hnew, List.nodup_middle, List.nodup_cons, ← Bool.not_eq_true, contains_iff, hold]
  simp [hr.2, hne]

theorem IsDistinct.remove? (hr : r.IsDistinct) (h : r.remove? id = some r') : r'.IsDistinct := by
  obtain ⟨l, t, hold, hnew⟩ := identities_of_remove? h
  rw [IsDistinct, hold, List.nodup_middle, List.nodup_cons] at hr
  rw [IsDistinct, hnew]
  exact hr.2

end RuleCatalog.RuleResource
