import Mathlib.Data.List.Basic
import RuleCatalog.Proofs.Catalog.Draft
import RuleCatalog.Proofs.Store

/-! # Places of rules

The rules of a store have places, in the order of namespace, name, group and position, and a
catalog takes them in in this order. Main statement: `find?_definitions_eq_some_iff`, that the
first definition that a catalog finds is the one at the first place. -/
namespace RuleCatalog

/-- Where a rule stands among all rules of a store. -/
structure RulePlace where
  key : ObjectKey
  group : Nat
  position : Nat
  deriving DecidableEq, Repr

namespace RulePlace

/-- By namespace and name, then by group, then by position. -/
instance : Ord RulePlace := ⟨compareLex (compareOn key) (compareLex (compareOn group)
  (compareOn position))⟩

instance : Std.TransOrd RulePlace := inferInstanceAs (Std.TransCmp (compareLex (compareOn key)
  (compareLex (compareOn group) (compareOn position))))

theorem compare_eq (p q : RulePlace) : compare p q = (compare p.key q.key).then
    ((compare p.group q.group).then (compare p.position q.position)) := rfl

/-- Whether a rule stands at a place of a store, in a resource that is not being deleted. -/
def Defines (s : Store RuleResource) (p : RulePlace) (d : Definition) : Prop :=
  ∃ r g, s.get? p.key = some r ∧ r.metadata.isDeleting = false ∧ r.groups[p.group]? = some g
    ∧ g.rules[p.position]? = some d.rule ∧ r.metadata = d.owner

/-- Whether a definition is the first one of a store with an identity. -/
structure IsFirst (s : Store RuleResource) (id : Identity) (p : RulePlace) (d : Definition) :
    Prop where
  defines : p.Defines s d
  has : d.Has id
  first : ∀ q e, q.Defines s e → e.Has id → compare p q = .lt ∨ p = q

variable {s : Store RuleResource} {p : RulePlace} {d e : Definition}

theorem Defines.unique (hd : p.Defines s d) (he : p.Defines s e) : d = e := by
  obtain ⟨r, g, hr, -, hg, hrule, howner⟩ := hd
  obtain ⟨r', g', hr', -, hg', hrule', howner'⟩ := he
  obtain rfl := Option.some.inj (hr.symm.trans hr')
  obtain rfl := Option.some.inj (hg.symm.trans hg')
  obtain ⟨owner, rule⟩ := d
  obtain ⟨owner', rule'⟩ := e
  obtain rfl : rule = rule' := Option.some.inj (hrule.symm.trans hrule')
  obtain rfl : owner = owner' := howner.symm.trans howner'
  rfl

/-- Of two places none comes before the other unless they are one. -/
theorem eq_of_before {p q : RulePlace} (h : compare p q = .lt ∨ p = q)
    (h' : compare q p = .lt ∨ q = p) : p = q := by
  rcases h with hlt | heq
  · rcases h' with hlt' | heq'
    · exact absurd (Std.OrientedCmp.gt_of_lt hlt) (by simp [hlt'])
    · exact heq'.symm
  · exact heq

theorem IsFirst.unique {id : Identity} {q : RulePlace} (hp : p.IsFirst s id d)
    (hq : q.IsFirst s id e) : p = q :=
  eq_of_before (hp.first q e hq.defines hq.has) (hq.first p d hp.defines hp.has)

theorem Defines.key_eq (hs : s.IsKeyed) (hd : p.Defines s d) : d.owner.key = p.key := by
  obtain ⟨r, g, hr, -, -, -, howner⟩ := hd
  rw [← howner]
  exact hs p.key r hr

end RulePlace

namespace RuleResource

/-- The definitions of a resource with their places. -/
def placed (key : ObjectKey) (r : RuleResource) : List (RulePlace × Definition) :=
  r.groups.zipIdx.flatMap fun g =>
    g.1.rules.zipIdx.map fun x => (⟨key, g.2, x.2⟩, ⟨r.metadata, x.1⟩)

variable {key : ObjectKey} {r : RuleResource}

theorem map_snd_placed (key : ObjectKey) (r : RuleResource) :
    (r.placed key).map Prod.snd = Definition.ofResource r := by
  have hrules : ∀ g : RuleGroup, (g.rules.zipIdx.map fun x => (⟨r.metadata, x.1⟩ : Definition))
      = g.rules.map fun x => ⟨r.metadata, x⟩ := by
    intro g
    have hmap := List.map_map (l := g.rules.zipIdx) (f := Prod.fst)
      (g := fun x => (⟨r.metadata, x⟩ : Definition))
    rw [List.zipIdx_map_fst] at hmap
    exact hmap.symm
  have hgroups := List.flatMap_map (l := r.groups.zipIdx) Prod.fst
    fun g => g.rules.map fun x => (⟨r.metadata, x⟩ : Definition)
  rw [List.zipIdx_map_fst] at hgroups
  calc (r.placed key).map Prod.snd
      = r.groups.zipIdx.flatMap fun g => g.1.rules.map fun x => ⟨r.metadata, x⟩ := by
        simp only [placed, List.map_flatMap, List.map_map, ← hrules]
        rfl
    _ = r.groups.flatMap fun g => g.rules.map fun x => ⟨r.metadata, x⟩ := hgroups.symm
    _ = Definition.ofResource r := by
        simp [Definition.ofResource, rules, List.map_flatMap, Function.comp_def]

theorem mem_placed {p : RulePlace} {d : Definition} : (p, d) ∈ r.placed key ↔ p.key = key
    ∧ r.metadata = d.owner
    ∧ ∃ g, r.groups[p.group]? = some g ∧ g.rules[p.position]? = some d.rule := by
  obtain ⟨k, i, j⟩ := p
  obtain ⟨owner, rule⟩ := d
  simp only [placed, List.mem_flatMap, List.mem_map, Prod.exists, List.mem_zipIdx_iff_getElem?,
    Prod.mk.injEq, RulePlace.mk.injEq, Definition.mk.injEq]
  constructor
  · rintro ⟨g, _, hg, x, _, hx, ⟨rfl, rfl, rfl⟩, rfl, rfl⟩
    exact ⟨rfl, rfl, g, hg, hx⟩
  · rintro ⟨rfl, rfl, g, hg, hx⟩
    exact ⟨g, i, hg, rule, j, hx, ⟨rfl, rfl, rfl⟩, rfl, rfl⟩

theorem pairwise_snd_zipIdx {α : Type} (l : List α) (n : Nat) :
    (l.zipIdx n).Pairwise fun a b => a.2 < b.2 := by
  induction l generalizing n with
  | nil => exact .nil
  | cons a l ih =>
    exact List.pairwise_cons.2 ⟨fun b hb => List.le_snd_of_mem_zipIdx hb, ih (n + 1)⟩

theorem pairwise_placed (key : ObjectKey) (r : RuleResource) :
    (r.placed key).Pairwise fun a b => compare a.1 b.1 = .lt := by
  have hkey : compare key key = .eq := Std.ReflCmp.compare_self
  refine List.pairwise_flatMap.2 ⟨fun g _ => ?_, ?_⟩
  · refine List.pairwise_map.2 ((pairwise_snd_zipIdx g.1.rules 0).imp fun {a b} hlt => ?_)
    have hgroup : compare g.2 g.2 = .eq := Std.ReflCmp.compare_self
    rw [RulePlace.compare_eq, hkey, hgroup, Ordering.eq_then, Ordering.eq_then,
      Nat.compare_eq_lt]
    exact hlt
  · refine (pairwise_snd_zipIdx r.groups 0).imp fun {a b} hlt x hx y hy => ?_
    obtain ⟨x, -, rfl⟩ := List.mem_map.1 hx
    obtain ⟨y, -, rfl⟩ := List.mem_map.1 hy
    rw [RulePlace.compare_eq, hkey, Ordering.eq_then, Nat.compare_eq_lt.2 hlt]
    rfl

end RuleResource

namespace Store

/-- The definitions of a store with their places, in order. -/
def placed (s : Store RuleResource) : List (RulePlace × Definition) :=
  (s.objects.toList.filter (!·.2.metadata.isDeleting)).flatMap fun q => q.2.placed q.1

variable {s : Store RuleResource}

theorem map_snd_placed (s : Store RuleResource) :
    s.placed.map Prod.snd = Catalog.definitions s.list := by
  unfold placed Catalog.definitions list SortedMap.values
  rw [List.map_flatMap, List.filter_map, List.flatMap_map]
  refine List.flatMap_congr fun q _ => ?_
  exact RuleResource.map_snd_placed q.1 q.2

theorem mem_placed {p : RulePlace} {d : Definition} : (p, d) ∈ s.placed ↔ p.Defines s d := by
  unfold placed RulePlace.Defines
  simp only [List.mem_flatMap, List.mem_filter, Prod.exists, RuleResource.mem_placed]
  constructor
  · rintro ⟨key, r, ⟨hmem, hlive⟩, rfl, howner, g, hg, hx⟩
    exact ⟨r, g, SortedMap.get?_eq_some_iff.2 hmem, by simpa using hlive, hg, hx, howner⟩
  · rintro ⟨r, g, hr, hlive, hg, hx, howner⟩
    exact ⟨p.key, r, ⟨SortedMap.get?_eq_some_iff.1 hr, by simpa using hlive⟩, rfl, howner, g, hg, hx⟩

theorem pairwise_placed (s : Store RuleResource) :
    s.placed.Pairwise fun a b => compare a.1 b.1 = .lt := by
  refine List.pairwise_flatMap.2 ⟨fun q _ => RuleResource.pairwise_placed q.1 q.2, ?_⟩
  refine (s.objects.sorted.filter _).imp fun {a b} hlt x hx y hy => ?_
  obtain ⟨hx, -⟩ := RuleResource.mem_placed.1 hx
  obtain ⟨hy, -⟩ := RuleResource.mem_placed.1 hy
  rw [RulePlace.compare_eq, hx, hy, hlt]
  rfl

end Store

namespace Catalog
variable {s : Store RuleResource} {id : Identity} {d : Definition}

theorem isFirst_of_find? (h : (definitions s.list).find? (·.Has id) = some d) :
    ∃ p, RulePlace.IsFirst s id p d := by
  rw [← Store.map_snd_placed, List.find?_map, Option.map_eq_some_iff] at h
  obtain ⟨⟨p, d'⟩, hfind, hd⟩ := h
  obtain rfl : d = d' := hd.symm
  obtain ⟨hhas, before, after, hsplit, hbefore⟩ := List.find?_eq_some_iff_append.1 hfind
  have hmem : (p, d) ∈ s.placed := by simp [hsplit]
  have hsorted := s.pairwise_placed
  rw [hsplit] at hsorted
  refine ⟨p, Store.mem_placed.1 hmem, by simpa using hhas, fun q e hq he => ?_⟩
  have hq := Store.mem_placed.2 hq
  rw [hsplit, List.mem_append, List.mem_cons] at hq
  -- before the found one nothing has the identity, and behind it all places are later
  rcases hq with hq | hq | hq
  · exact absurd he (by simpa using hbefore _ hq)
  · exact .inr (Prod.mk.inj hq).1.symm
  · obtain ⟨hafter, -⟩ := List.pairwise_cons.1 (List.pairwise_append.1 hsorted).2.1
    have hlt : compare p q = .lt := hafter (q, e) hq
    exact .inl hlt

theorem exists_find?_definitions {p : RulePlace} (h : p.Defines s d) (hhas : d.Has id) :
    ∃ e, (definitions s.list).find? (·.Has id) = some e := by
  have hmem : d ∈ definitions s.list := by
    rw [← Store.map_snd_placed]
    exact List.mem_map_of_mem (Store.mem_placed.2 h)
  exact Option.isSome_iff_exists.1 (List.find?_isSome.2 ⟨d, hmem, by simpa using hhas⟩)

/-- The definition that a catalog finds is the one at the first place. -/
theorem find?_definitions_eq_some_iff :
    (definitions s.list).find? (·.Has id) = some d ↔ ∃ p, RulePlace.IsFirst s id p d := by
  refine ⟨isFirst_of_find?, fun ⟨p, hp⟩ => ?_⟩
  obtain ⟨e, he⟩ := exists_find?_definitions hp.defines hp.has
  obtain ⟨q, hq⟩ := isFirst_of_find? he
  obtain rfl : p = q := hp.unique hq
  rw [he, hq.defines.unique hp.defines]

theorem exists_isFirst {p : RulePlace} (h : p.Defines s d) (hhas : d.Has id) :
    ∃ q e, RulePlace.IsFirst s id q e := by
  obtain ⟨e, he⟩ := exists_find?_definitions h hhas
  obtain ⟨q, hq⟩ := isFirst_of_find? he
  exact ⟨q, e, hq⟩

end Catalog

end RuleCatalog
