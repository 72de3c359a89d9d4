import RuleCatalog.Rule.Group

/-! # Edits of one rule

An edit takes place at one spot among the groups of a resource, and all around the spot stays as it
is: the first rule with an identity is replaced or removed, and a rule is added at the end of the
first group of a name. Main statement: `edits_at_spot`. -/
namespace RuleCatalog.RuleResource

/-- A spot among groups: what is before it and after it, in its own group and in the others. -/
structure Spot where
  groupsBefore : List RuleGroup
  name : String
  interval : Option String
  rulesBefore : List Rule
  rulesAfter : List Rule
  groupsAfter : List RuleGroup

namespace Spot

/-- The groups with some rules at the spot. -/
def fill (s : Spot) (xs : List Rule) : List RuleGroup :=
  s.groupsBefore
    ++ ⟨s.name, s.interval, s.rulesBefore ++ (xs ++ s.rulesAfter)⟩ :: s.groupsAfter

/-- The rules before the spot, with the names of their groups. -/
def before (s : Spot) : List (String × Rule) :=
  (s.groupsBefore.flatMap fun g => g.rules.map fun x => (g.name, x))
    ++ s.rulesBefore.map fun x => (s.name, x)

/-- The rules after the spot, with the names of their groups. -/
def after (s : Spot) : List (String × Rule) :=
  (s.rulesAfter.map fun x => (s.name, x))
    ++ s.groupsAfter.flatMap fun g => g.rules.map fun x => (g.name, x)

/-- Whether no rule before the spot has an identity. -/
def IsFirst (s : Spot) (id : Identity) : Prop := ∀ p ∈ s.before, Identity.ofRule p.2 ≠ id

end Spot

variable {r : RuleResource} {s : Spot} {id : Identity} {rule x : Rule} {xs new : List Rule}
  {gs : List RuleGroup} {group : String}

theorem rules_fill (h : r.groups = s.fill xs) :
    r.rules = s.before ++ ((xs.map fun x => (s.name, x)) ++ s.after) := by
  rw [rules, h]
  simp [Spot.fill, Spot.before, Spot.after]

/-! ## Finding a rule -/

theorem Spot.isFirst_iff : s.IsFirst id ↔
    (∀ g ∈ s.groupsBefore, ∀ y ∈ g.rules, Identity.ofRule y ≠ id)
      ∧ ∀ y ∈ s.rulesBefore, Identity.ofRule y ≠ id := by
  simp only [IsFirst, before, List.mem_append, List.mem_flatMap, List.mem_map]
  constructor
  · intro h
    exact ⟨fun g hg y hy => h (g.name, y) (.inl ⟨g, hg, y, hy, rfl⟩),
      fun y hy => h (s.name, y) (.inr ⟨y, hy, rfl⟩)⟩
  · rintro ⟨hgroups, hrules⟩ p (⟨g, hg, y, hy, rfl⟩ | ⟨y, hy, rfl⟩)
    · exact hgroups g hg y hy
    · exact hrules y hy

theorem substitute_eq_none (h : ∀ y ∈ xs, Identity.ofRule y ≠ id) : substitute id new xs = none := by
  rw [← Option.not_isSome_iff_eq_none, isSome_substitute]
  simpa using h

theorem substitute_append (h : ∀ y ∈ xs, Identity.ofRule y ≠ id) (hx : Identity.ofRule x = id)
    (ys : List Rule) : substitute id new (xs ++ x :: ys) = some (xs ++ (new ++ ys)) := by
  induction xs with
  | nil => exact if_pos hx
  | cons y xs ih =>
    rw [List.cons_append, substitute, if_neg (h y List.mem_cons_self),
      ih fun z hz => h z (List.mem_cons_of_mem y hz)]
    rfl

/-- The rules at the first spot with an identity are replaced. -/
theorem substituteIn_fill (hs : s.IsFirst id) (hx : Identity.ofRule x = id) :
    substituteIn id new (s.fill [x]) = some (s.fill new) := by
  obtain ⟨hgroups, hrules⟩ := Spot.isFirst_iff.1 hs
  unfold Spot.fill
  generalize s.groupsBefore = gs at hgroups
  induction gs with
  | nil =>
    rw [List.nil_append, substituteIn, List.singleton_append, substitute_append hrules hx]
    rfl
  | cons g gs ih =>
    rw [List.cons_append, substituteIn, substitute_eq_none (hgroups g List.mem_cons_self),
      ih fun h hh => hgroups h (List.mem_cons_of_mem g hh)]
    rfl

/-- A rule with an identity that is there has a first spot. -/
theorem exists_isFirst (h : r.contains id = true) :
    ∃ (s : Spot) (x : Rule), r.groups = s.fill [x] ∧ Identity.ofRule x = id ∧ s.IsFirst id := by
  obtain ⟨g, hg, y, hy, hid⟩ : ∃ g ∈ r.groups, ∃ y ∈ g.rules, Identity.ofRule y = id := by
    simpa [contains, rules] using h
  -- the first group with such a rule, and the first such rule in it
  have hin : (g.rules.any fun y => Identity.ofRule y == id) = true :=
    List.any_eq_true.2 ⟨y, hy, beq_iff_eq.2 hid⟩
  obtain ⟨g, groupsBefore, groupsAfter, hgroups, hin, hsplit, -⟩ :=
    List.exists_of_eraseP (p := fun g => g.rules.any fun y => Identity.ofRule y == id) hg hin
  obtain ⟨y, hy, hid⟩ := List.any_eq_true.1 hin
  obtain ⟨x, rulesBefore, rulesAfter, hrules, hx, hxs, -⟩ :=
    List.exists_of_eraseP (p := fun y => Identity.ofRule y == id) hy hid
  refine ⟨⟨groupsBefore, g.name, g.interval, rulesBefore, rulesAfter, groupsAfter⟩, x, ?_,
    beq_iff_eq.1 hx, Spot.isFirst_iff.2 ⟨fun g hg y hy hid => ?_, fun y hy hid => ?_⟩⟩
  · rw [hsplit, Spot.fill, List.singleton_append, ← hxs]
  · exact hgroups g hg (List.any_eq_true.2 ⟨y, hy, beq_iff_eq.2 hid⟩)
  · exact hrules y hy (beq_iff_eq.2 hid)

theorem substituteIn_eq_none_iff : substituteIn id new r.groups = none ↔ r.contains id = false := by
  have hcontains : r.contains id = (substituteIn id new r.groups).isSome := by
    rw [← isSome_replace? r id default, replace?, Option.isSome_map,
      isSome_substituteIn, isSome_substituteIn]
  rw [hcontains, Option.isSome_eq_false_iff, Option.isNone_iff_eq_none]

/-! ## Adding a rule -/

/-- The spot in a new last group. -/
def Spot.last (gs : List RuleGroup) (name : String) : Spot := ⟨gs, name, none, [], [], []⟩

/-- A rule is added at the end of the first group of a name, or in a new group. -/
theorem addTo_eq_fill (group : String) (rule : Rule) (gs : List RuleGroup) :
    ∃ s : Spot, s.name = group ∧ s.rulesAfter = [] ∧ (∀ g ∈ s.groupsBefore, g.name ≠ group)
      ∧ (gs = s.fill [] ∨ s = .last gs group) ∧ addTo group rule gs = s.fill [rule] := by
  induction gs with
  | nil => exact ⟨.last [] group, rfl, rfl, by simp [Spot.last], .inr rfl, rfl⟩
  | cons g gs ih =>
    by_cases hg : g.name = group
    · refine ⟨⟨[], g.name, g.interval, g.rules, [], gs⟩, hg, rfl, by simp, .inl ?_, ?_⟩
      · simp [Spot.fill]
      · rw [addTo, if_pos hg]
        rfl
    · rw [addTo, if_neg hg]
      obtain ⟨s, hname, hafter, hbefore, hspot, hadd⟩ := ih
      refine ⟨{ s with groupsBefore := g :: s.groupsBefore }, hname, hafter,
        List.forall_mem_cons.2 ⟨hg, hbefore⟩, ?_, ?_⟩
      · rcases hspot with rfl | rfl
        · exact .inl rfl
        · exact .inr rfl
      · rw [hadd]
        rfl

/-! ## Edits -/

/-- The resource without the groups that have no rules. -/
def withoutEmpty (r : RuleResource) : RuleResource :=
  { r with groups := r.groups.filter fun g => !g.rules.isEmpty }

theorem rules_withoutEmpty (r : RuleResource) : r.withoutEmpty.rules = r.rules := by
  unfold withoutEmpty rules
  induction r.groups with
  | nil => rfl
  | cons g gs ih => cases h : g.rules <;> simp [h, ih]

theorem withoutEmpty_eq_self (h : ∀ g ∈ r.groups, g.rules ≠ []) : r.withoutEmpty = r := by
  have hgroups : (r.groups.filter fun g => !g.rules.isEmpty) = r.groups :=
    List.filter_eq_self.2 fun g hg => by simpa using h g hg
  rw [withoutEmpty, hgroups]

theorem replace?_eq_none_iff : r.replace? id rule = none ↔ r.contains id = false := by
  rw [replace?, Option.map_eq_none_iff, substituteIn_eq_none_iff]

theorem remove?_eq_none_iff : r.remove? id = none ↔ r.contains id = false := by
  rw [remove?, Option.map_eq_none_iff, substituteIn_eq_none_iff]

theorem replace?_eq_some (hr : r.groups = s.fill [x]) (hs : s.IsFirst id)
    (hx : Identity.ofRule x = id) :
    r.replace? id rule = some { r with groups := s.fill [rule] } := by
  rw [replace?, hr, substituteIn_fill hs hx]
  rfl

theorem remove?_eq_some (hr : r.groups = s.fill [x]) (hs : s.IsFirst id)
    (hx : Identity.ofRule x = id) :
    r.remove? id = some { r with groups := s.fill [] }.withoutEmpty := by
  rw [remove?, hr, substituteIn_fill hs hx]
  rfl

/-- The rules of a resource before a rule is added at a spot. -/
theorem rules_of_spot (h : r.groups = s.fill [] ∨ s = .last r.groups group) :
    r.rules = s.before ++ s.after := by
  rcases h with h | rfl
  · exact rules_fill h
  · simp [rules, Spot.last, Spot.before, Spot.after]

/-- A spot without a rule stands for the groups before it was made. -/
theorem withoutEmpty_fill_nil (h : r.groups = s.fill [] ∨ s = .last r.groups group) :
    { r with groups := s.fill [] }.withoutEmpty = r.withoutEmpty := by
  rcases h with h | rfl
  · rw [← h]
  · simp [withoutEmpty, Spot.fill, Spot.last]

/-- A rule that was added is removed again. -/
theorem remove?_add (hgroups : ∀ g ∈ r.groups, g.rules ≠ [])
    (hnew : r.contains (Identity.ofRule rule) = false) :
    (r.add group rule).remove? (Identity.ofRule rule) = some r := by
  obtain ⟨s, -, -, -, hspot, hadd⟩ := addTo_eq_fill group rule r.groups
  have hs : s.IsFirst (Identity.ofRule rule) := by
    have hrules : ∀ p ∈ r.rules, Identity.ofRule p.2 ≠ Identity.ofRule rule := by
      simpa [contains] using hnew
    exact fun p hp => hrules p (rules_of_spot hspot ▸ List.mem_append_left _ hp)
  calc (r.add group rule).remove? (Identity.ofRule rule)
      = some { r with groups := s.fill [] }.withoutEmpty :=
        remove?_eq_some (r := r.add group rule) hadd hs rfl
    _ = some r := by rw [withoutEmpty_fill_nil hspot, withoutEmpty_eq_self hgroups]

/-- Every edit is refused exactly where its rule is not there, and otherwise takes place at one spot
with all groups and rules around it kept: the first rule with the identity is replaced, or it is
removed with the groups that have no rules, and a rule is added behind the last one of the first
group of a name, or of a new last group. A rule that was added is removed again. -/
theorem edits_at_spot (r : RuleResource) (id : Identity) (rule : Rule) (group : String) :
    (r.replace? id rule = none ↔ r.contains id = false)
    ∧ (r.remove? id = none ↔ r.contains id = false)
    ∧ (r.contains id = true → ∃ (s : Spot) (x : Rule), Identity.ofRule x = id ∧ s.IsFirst id
        ∧ r.groups = s.fill [x] ∧ r.rules = s.before ++ (s.name, x) :: s.after
        ∧ (∃ r', r.replace? id rule = some r' ∧ r' = { r with groups := s.fill [rule] }
          ∧ r'.rules = s.before ++ (s.name, rule) :: s.after)
        ∧ ∃ r', r.remove? id = some r' ∧ r' = { r with groups := s.fill [] }.withoutEmpty
          ∧ r'.rules = s.before ++ s.after)
    ∧ (∃ s : Spot, s.name = group ∧ s.rulesAfter = [] ∧ (∀ g ∈ s.groupsBefore, g.name ≠ group)
        ∧ (r.groups = s.fill [] ∨ s = .last r.groups group)
        ∧ r.add group rule = { r with groups := s.fill [rule] }
        ∧ r.rules = s.before ++ s.after
        ∧ (r.add group rule).rules = s.before ++ (group, rule) :: s.after)
    ∧ ((∀ g ∈ r.groups, g.rules ≠ []) → r.contains (Identity.ofRule rule) = false →
        (r.add group rule).remove? (Identity.ofRule rule) = some r) := by
  refine ⟨replace?_eq_none_iff, remove?_eq_none_iff, fun h => ?_, ?_, remove?_add⟩
  · obtain ⟨s, x, hr, hx, hs⟩ := exists_isFirst h
    refine ⟨s, x, hx, hs, hr, rules_fill hr, ⟨_, replace?_eq_some hr hs hx, rfl, ?_⟩,
      ⟨_, remove?_eq_some hr hs hx, rfl, ?_⟩⟩
    · exact rules_fill (r := { r with groups := s.fill [rule] }) rfl
    · rw [rules_withoutEmpty]
      exact rules_fill (r := { r with groups := s.fill [] }) rfl
  · obtain ⟨s, rfl, hafter, hbefore, hspot, hadd⟩ := addTo_eq_fill group rule r.groups
    exact ⟨s, rfl, hafter, hbefore, hspot, by rw [add, hadd], rules_of_spot hspot,
      rules_fill (r := r.add s.name rule) hadd⟩

/-- A resource with one rule in two groups of one name. -/
def twins : RuleResource :=
  ⟨.fresh ⟨"team", "disk"⟩, [⟨"disk", some "30s", [up "A"]⟩, ⟨"disk", none, [up "A"]⟩]⟩
where
  up (name : String) : Rule := ⟨some name, none, "up == 0", none, ∅, ∅⟩

theorem edits_at_spot_twins :
    twins.contains (Identity.ofRule (twins.up "A")) = true
    ∧ (∃ (s : Spot) (x : Rule), s.IsFirst (Identity.ofRule (twins.up "A"))
      ∧ twins.rules = s.before ++ (s.name, x) :: s.after
      ∧ ∃ r', twins.remove? (Identity.ofRule (twins.up "A")) = some r'
        ∧ r'.rules = s.before ++ s.after)
    ∧ (∀ g ∈ twins.groups, g.rules ≠ [])
    ∧ twins.contains (Identity.ofRule (twins.up "B")) = false
    ∧ (twins.add "disk" (twins.up "B")).remove? (Identity.ofRule (twins.up "B")) = some twins := by
  have hA : twins.contains (Identity.ofRule (twins.up "A")) = true := by decide +kernel
  have hB : twins.contains (Identity.ofRule (twins.up "B")) = false := by decide +kernel
  have hgroups : ∀ g ∈ twins.groups, g.rules ≠ [] := by decide
  obtain ⟨-, -, hfirst, -, hadd⟩ :=
    edits_at_spot twins (Identity.ofRule (twins.up "A")) (twins.up "B") "disk"
  obtain ⟨s, x, -, hs, -, hrules, -, r', hremove, -, hrules'⟩ := hfirst hA
  exact ⟨hA, ⟨s, x, hs, hrules, r', hremove, hrules'⟩, hgroups, hB, hadd hgroups hB⟩

end RuleCatalog.RuleResource
