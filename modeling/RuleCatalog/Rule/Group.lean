import RuleCatalog.Resource.Kinds
import RuleCatalog.Rule.Identity

/-! # Editing rule groups

Rules of a resource are found by their identities. An edit answers the new resource, or nothing
where it does not find its rule. Main statement: an edit of a rule that is there succeeds. -/
namespace RuleCatalog.RuleResource

/-- The rules with the names of their groups, in order. -/
def rules (r : RuleResource) : List (String × Rule) :=
  r.groups.flatMap fun g => g.rules.map fun x => (g.name, x)

def contains (r : RuleResource) (id : Identity) : Bool :=
  r.rules.any fun p => Identity.ofRule p.2 == id

/-- Puts a list in the place of the first rule with an identity. -/
def substitute (id : Identity) (new : List Rule) : List Rule → Option (List Rule)
  | [] => none
  | x :: xs =>
    if Identity.ofRule x = id then some (new ++ xs)
    else (substitute id new xs).map (x :: ·)

/-- Puts a list in the place of the first rule with an identity in any of the groups. -/
def substituteIn (id : Identity) (new : List Rule) : List RuleGroup → Option (List RuleGroup)
  | [] => none
  | g :: gs =>
    match substitute id new g.rules with
    | some xs => some ({ g with rules := xs } :: gs)
    | none => (substituteIn id new gs).map (g :: ·)

/-- Replaces the first rule with an identity. -/
def replace? (r : RuleResource) (id : Identity) (rule : Rule) : Option RuleResource :=
  (substituteIn id [rule] r.groups).map fun gs => { r with groups := gs }

/-- Removes the first rule with an identity; groups without rules go too. -/
def remove? (r : RuleResource) (id : Identity) : Option RuleResource :=
  (substituteIn id [] r.groups).map fun gs =>
    { r with groups := gs.filter fun g => !g.rules.isEmpty }

/-- Adds a rule to the end of the first group of a name, or of a new group. -/
def addTo (name : String) (rule : Rule) : List RuleGroup → List RuleGroup
  | [] => [⟨name, none, [rule]⟩]
  | g :: gs =>
    if g.name = name then { g with rules := g.rules ++ [rule] } :: gs
    else g :: addTo name rule gs

def add (r : RuleResource) (group : String) (rule : Rule) : RuleResource :=
  { r with groups := addTo group rule r.groups }

theorem isSome_substitute (id : Identity) (new xs : List Rule) :
    (substitute id new xs).isSome = xs.any fun x => Identity.ofRule x == id := by
  induction xs with
  | nil => rfl
  | cons x xs ih => by_cases h : Identity.ofRule x = id <;> simp [substitute, h, ih]

theorem isSome_substituteIn (id : Identity) (new : List Rule) (gs : List RuleGroup) :
    (substituteIn id new gs).isSome
      = gs.any fun g => g.rules.any fun x => Identity.ofRule x == id := by
  induction gs with
  | nil => rfl
  | cons g gs ih =>
    have h := isSome_substitute id new g.rules
    simp only [substituteIn, List.any_cons, ← h, ← ih]
    split <;> simp_all

theorem isSome_replace? (r : RuleResource) (id : Identity) (rule : Rule) :
    (r.replace? id rule).isSome = r.contains id := by
  simp only [replace?, Option.isSome_map, isSome_substituteIn, contains, rules, List.any_flatMap,
    List.any_map]
  rfl

end RuleCatalog.RuleResource
