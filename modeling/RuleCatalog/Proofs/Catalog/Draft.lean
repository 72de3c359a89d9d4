import Mathlib.Algebra.GroupWithZero.Nat
import RuleCatalog.Catalog.Build
import RuleCatalog.Proofs.SortedMap

/-! # Definitions and what becomes of them

A definition is tracked under an identity if it has that identity and its rule a name. Taking
definitions in, one after another, leaves what is there and counts each of them once, so that
under every identity stands what its first definition makes of it. Main statements:
`held_foldl_add`, `total_foldl_add`, and `held_build` for the whole catalog. -/
namespace RuleCatalog

namespace Identity

theorem isEmpty_ofRule (r : Rule) : (ofRule r).isEmpty = r.name?.isNone := by
  unfold ofRule
  cases r.name? with
  | none => rfl
  | some name =>
    have hne : name ++ ";" ++ Sha256.hexDigest (Utf8.bytes (content r name)) ≠ "" := by
      intro h
      have hlist := congrArg String.toList h
      simp at hlist
    simp [isEmpty, hne]

end Identity

namespace Definition
variable (s : Surroundings) (d : Definition)

/-- Whether a definition is tracked under an identity. -/
def Has (id : Identity) : Prop := d.rule.name?.isSome = true ∧ Identity.ofRule d.rule = id

instance (id : Identity) : Decidable (d.Has id) :=
  inferInstanceAs (Decidable (d.rule.name?.isSome = true ∧ Identity.ofRule d.rule = id))

/-- The rule that a definition puts in force, unless it is silenced. -/
def kept? : Option CatalogRule :=
  match d.outcome s with
  | .keep labels => some (d.toCatalogRule s (Identity.ofRule d.rule) labels)
  | .drop => none

/-- The silenced rule of a definition. -/
def silenced? : Option CatalogRule :=
  match d.outcome s with
  | .keep _ => none
  | .drop => some (d.toCatalogRule s (Identity.ofRule d.rule) d.rule.reportedLabels)

/-- What a definition makes of its rule: one in force or a silenced one. -/
def held : Option CatalogRule × Option CatalogRule := (d.kept? s, d.silenced? s)

theorem held_cases : (∃ labels, d.outcome s = .keep labels
      ∧ d.held s = (some (d.toCatalogRule s (Identity.ofRule d.rule) labels), none))
    ∨ d.outcome s = .drop ∧ d.held s
      = (none, some (d.toCatalogRule s (Identity.ofRule d.rule) d.rule.reportedLabels)) := by
  unfold held kept? silenced?
  cases d.outcome s with
  | keep labels => exact .inl ⟨labels, rfl, rfl⟩
  | drop => exact .inr ⟨rfl, rfl⟩

/-- What stands for a definition has its rule, and the rules of users are never relabeled. -/
theorem exists_of_held {e : CatalogRule} (h : (d.held s).1.or (d.held s).2 = some e) :
    ∃ labels, e = d.toCatalogRule s (Identity.ofRule d.rule) labels
      ∧ (s.isPlatform d.owner.space = false → labels = d.rule.reportedLabels) := by
  obtain ⟨labels, houtcome, hheld⟩ | ⟨-, hheld⟩ := d.held_cases s
  · rw [hheld] at h
    refine ⟨labels, (Option.some.inj h).symm, fun huser => ?_⟩
    rw [outcome, huser] at houtcome
    exact (RelabelOutcome.keep.inj houtcome).symm
  · rw [hheld] at h
    exact ⟨_, (Option.some.inj h).symm, fun _ => rfl⟩

end Definition

namespace Draft
variable {s : Surroundings} {b : Draft} {d : Definition} {id : Identity}

/-- What a draft holds under an identity: a rule in force, a silenced one, or nothing. -/
def held (b : Draft) (id : Identity) : Option CatalogRule × Option CatalogRule :=
  (b.rules.get? id, b.dropped.get? id)

/-- How many definitions have been taken in. -/
def total (b : Draft) : Nat := b.rules.size + b.dropped.size + b.skipped

theorem held_of_not_contains (h : b.contains id = false) : b.held id = (none, none) := by
  simp only [contains, SortedMap.contains, Bool.or_eq_false_iff, Option.isSome_eq_false_iff,
    Option.isNone_iff_eq_none] at h
  simp [held, h]

theorem held_put_of_ne {id' : Identity} (h : id' ≠ id) : (b.put s d id).held id' = b.held id' := by
  have hne : compare id' id ≠ .eq := fun e => h (Std.LawfulEqOrd.eq_of_compare e)
  unfold put held
  cases d.outcome s <;> simp [SortedMap.get?_insert, hne]

theorem held_put_self (h : b.contains (Identity.ofRule d.rule) = false) :
    (b.put s d (Identity.ofRule d.rule)).held (Identity.ofRule d.rule) = d.held s := by
  obtain ⟨hrules, hdropped⟩ := Prod.mk.inj (held_of_not_contains h)
  unfold put held Definition.held Definition.kept? Definition.silenced?
  cases d.outcome s <;> simp [hrules, hdropped]

/-- A definition leaves alone what is there, and what it is not for. -/
theorem held_add_of_contains_or_not_has (h : b.contains id = true ∨ ¬ d.Has id) :
    (b.add s d).held id = b.held id := by
  unfold add
  dsimp only
  split
  · rfl
  · rename_i hnew
    refine held_put_of_ne fun hid => hnew ?_
    subst hid
    rcases h with h | h
    · rw [h, Bool.or_true]
    · have hname : d.rule.name?.isNone = true := by
        simpa [Definition.Has] using h
      rw [Identity.isEmpty_ofRule, hname, Bool.true_or]

theorem held_add_of_has (h : d.Has id) (hnew : b.contains id = false) :
    (b.add s d).held id = d.held s := by
  obtain ⟨hname, rfl⟩ := h
  have hempty : (Identity.ofRule d.rule).isEmpty = false := by
    rw [Identity.isEmpty_ofRule]
    simpa using hname
  rw [add, hempty, hnew]
  exact held_put_self hnew

theorem contains_add_of_has (h : d.Has id) : (b.add s d).contains id = true := by
  obtain ⟨hname, rfl⟩ := h
  rw [contains_add, Identity.isEmpty_ofRule]
  simp [hname]

theorem contains_add_of_not_has (h : ¬ d.Has id) :
    (b.add s d).contains id = b.contains id := by
  have hheld := held_add_of_contains_or_not_has (s := s) (b := b) (.inr h)
  obtain ⟨hrules, hdropped⟩ := Prod.mk.inj hheld
  unfold contains SortedMap.contains
  rw [hrules, hdropped]

/-- What stands under an identity stays, and otherwise its first definition is put there. -/
theorem held_foldl_add (s : Surroundings) (b : Draft) (ds : List Definition) (id : Identity) :
    (ds.foldl (add s) b).held id
    = if b.contains id = true then b.held id
      else ((ds.find? (·.Has id)).map (·.held s)).getD (none, none) := by
  -- for any draft, since each definition may be the one that settles the identity
  induction ds generalizing b with
  | nil =>
    split
    · rfl
    · rename_i h
      exact held_of_not_contains (Bool.eq_false_iff.2 h)
  | cons d ds ih =>
    rw [List.foldl_cons, ih (b.add s d)]
    by_cases hhas : d.Has id
    · rw [if_pos (contains_add_of_has hhas), List.find?_cons_of_pos (by simpa using hhas)]
      split
      · rename_i h
        exact held_add_of_contains_or_not_has (.inl h)
      · rename_i h
        exact held_add_of_has hhas (Bool.eq_false_iff.2 h)
    · rw [contains_add_of_not_has hhas, List.find?_cons_of_neg (by simpa using hhas),
        held_add_of_contains_or_not_has (.inr hhas)]

theorem total_put (h : b.contains id = false) : (b.put s d id).total = b.total + 1 := by
  obtain ⟨hrules, hdropped⟩ := Bool.or_eq_false_iff.1 h
  unfold put total
  cases d.outcome s with
  | keep labels =>
    dsimp only
    rw [SortedMap.size_insert hrules]
    omega
  | drop =>
    dsimp only
    rw [SortedMap.size_insert hdropped]
    omega

theorem total_add (s : Surroundings) (b : Draft) (d : Definition) :
    (b.add s d).total = b.total + 1 := by
  unfold add
  dsimp only
  split
  · rfl
  · rename_i hnew
    exact total_put (Bool.or_eq_false_iff.1 (Bool.eq_false_iff.2 hnew)).2

theorem total_foldl_add (s : Surroundings) (b : Draft) (ds : List Definition) :
    (ds.foldl (add s) b).total = b.total + ds.length := by
  induction ds generalizing b with
  | nil => rfl
  | cons d ds ih =>
    rw [List.foldl_cons, ih, total_add, List.length_cons]
    omega

end Draft

namespace Catalog

/-- The definitions that count, in order. -/
def definitions (resources : List RuleResource) : List Definition :=
  (resources.filter (!·.metadata.isDeleting)).flatMap Definition.ofResource

/-- What a catalog holds under an identity: a rule in force, a silenced one, or nothing. -/
def held (c : Catalog) (id : Identity) : Option CatalogRule × Option CatalogRule :=
  (c.rules.get? id, c.dropped.get? id)

variable (s : Surroundings) (resources : List RuleResource)

/-- Under each identity stands what its first definition makes of it. -/
theorem held_build (id : Identity) : (build s resources).1.held id
    = (((definitions resources).find? (·.Has id)).map (·.held s)).getD (none, none) := by
  have hfold := Draft.held_foldl_add s
    ⟨∅, ∅, ((resources.filter (·.metadata.isDeleting)).flatMap Definition.ofResource).length⟩
    (definitions resources) id
  rw [if_neg (by simp [Draft.contains, SortedMap.contains])] at hfold
  rw [← hfold]
  unfold build definitions
  rw [List.partition_eq_filter_filter]
  rfl

theorem length_definitions_add : (definitions resources).length
      + ((resources.filter (·.metadata.isDeleting)).flatMap Definition.ofResource).length
    = (resources.map (·.rules.length)).sum := by
  unfold definitions
  induction resources with
  | nil => rfl
  | cons r rs ih =>
    have hr : (Definition.ofResource r).length = r.rules.length := by simp [Definition.ofResource]
    cases h : r.metadata.isDeleting <;> simp [h, hr] <;> simp at ih <;> omega

/-- Each rule of the resources is in force, silenced or skipped. -/
theorem total_build : (build s resources).2.rules + (build s resources).2.dropped
    + (build s resources).2.skipped = (resources.map (·.rules.length)).sum := by
  have hfold := Draft.total_foldl_add s
    ⟨∅, ∅, ((resources.filter (·.metadata.isDeleting)).flatMap Definition.ofResource).length⟩
    (definitions resources)
  have hlength := length_definitions_add resources
  have hzero : (∅ : SortedMap Identity CatalogRule).size = 0 := rfl
  unfold build
  rw [List.partition_eq_filter_filter]
  unfold definitions at hfold hlength
  simp only [Draft.total, hzero] at hfold
  simp only [Function.comp_def]
  omega

end Catalog

end RuleCatalog
