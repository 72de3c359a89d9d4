import RuleCatalog.Proofs.Catalog.Account

/-! # Matching through the index of names

A catalog looks for a reported rule among the rules of its name alone, which an index of names
lists. That makes no difference: what is found among candidates depends neither on their order
nor on those of other names. Main statement: `matching?_eq_of_run_sync`. -/
namespace RuleCatalog

/-! ## Candidates -/

namespace ReportedRule
variable {α : Type} {q : ReportedRule} {rule : α → Rule} {l l' : List α}

/-- Lists that differ in their order alone are both empty, both the same single element, or both
longer. -/
theorem cases_of_perm (h : l.Perm l') : l = [] ∧ l' = [] ∨ (∃ a, l = [a] ∧ l' = [a])
    ∨ ∃ a b r a' b' r', l = a :: b :: r ∧ l' = a' :: b' :: r' := by
  match l, l', h with
  | [], l', h => exact .inl ⟨rfl, h.nil_eq.symm⟩
  | [a], l', h => exact .inr (.inl ⟨a, rfl, (List.perm_singleton.1 h.symm)⟩)
  | a :: b :: r, [], h => simp at h
  | a :: b :: r, [a'], h => simpa using h.length_eq
  | a :: b :: r, a' :: b' :: r', h => exact .inr (.inr ⟨a, b, r, a', b', r', rfl, rfl⟩)

/-- The outcome of the candidates that agree in everything, without the labels, and in name. -/
def outcomeOf (strict relaxed named : List α) : MatchOutcome α :=
  match strict, relaxed, named with
  | [c], _, _ => .strict c
  | _, [c], _ => .relaxed c
  | _, _ :: _ :: _, _ => .ambiguous
  | _, [], [c] => .sole c
  | _, [], _ => .none

theorem findAmong_eq_outcomeOf (q : ReportedRule) (rule : α → Rule) (l : List α) :
    q.findAmong rule l = outcomeOf
      (((l.filter fun c => (rule c).name? == some q.name).filter fun c =>
        q.agreesInQuery (rule c)).filter fun c =>
        (rule c).labels.business == q.labels.business)
      ((l.filter fun c => (rule c).name? == some q.name).filter fun c => q.agreesInQuery (rule c))
      (l.filter fun c => (rule c).name? == some q.name) := rfl

theorem outcomeOf_eq_of_perm {strict strict' relaxed relaxed' named named' : List α}
    (hs : strict.Perm strict') (hr : relaxed.Perm relaxed') (hn : named.Perm named') :
    outcomeOf strict relaxed named = outcomeOf strict' relaxed' named' := by
  -- each tier counts its candidates up to two, and names the only one
  rcases cases_of_perm hs with ⟨rfl, rfl⟩ | ⟨c, rfl, rfl⟩ | ⟨_, _, _, _, _, _, rfl, rfl⟩ <;>
  rcases cases_of_perm hr with ⟨rfl, rfl⟩ | ⟨c, rfl, rfl⟩ | ⟨_, _, _, _, _, _, rfl, rfl⟩ <;>
  rcases cases_of_perm hn with ⟨rfl, rfl⟩ | ⟨c, rfl, rfl⟩ | ⟨_, _, _, _, _, _, rfl, rfl⟩ <;>
  rfl

/-- What is found depends on the candidates with the name alone, and not on their order. -/
theorem findAmong_eq_of_perm (h : (l.filter fun c => (rule c).name? == some q.name).Perm
      (l'.filter fun c => (rule c).name? == some q.name)) :
    q.findAmong rule l = q.findAmong rule l' := by
  have hrelaxed := h.filter fun c => q.agreesInQuery (rule c)
  have hstrict := hrelaxed.filter fun c => (rule c).labels.business == q.labels.business
  rw [findAmong_eq_outcomeOf, findAmong_eq_outcomeOf]
  exact outcomeOf_eq_of_perm hstrict hrelaxed h

end ReportedRule

/-! ## The index -/

namespace Catalog
variable {c : Catalog} {name : String}

/-- The identities of the rules with a name, in order. -/
def idsNamed (rules : SortedMap Identity CatalogRule) (name : String) : List Identity :=
  (rules.toList.filter fun p => p.2.rule.name? == some name).map Prod.fst

/-- Whether the index of a catalog lists under each name the rules of this name, each once. -/
structure IsIndexed (c : Catalog) : Prop where
  mem_iff : ∀ name id, id ∈ (c.byName.get? name).getD []
    ↔ ∃ e, c.rules.get? id = some e ∧ e.rule.name? = some name
  nodup : ∀ name, ((c.byName.get? name).getD []).Nodup
  ne_nil : ∀ name, c.byName.get? name ≠ some []

theorem get?_namesOf (rules : SortedMap Identity CatalogRule) (name : String) :
    (namesOf rules).get? name
      = if idsNamed rules name = [] then none else some (idsNamed rules name) := by
  unfold namesOf idsNamed
  induction rules.toList using List.reverseRecOn with
  | nil => rfl
  | append_singleton l p ih =>
    rw [List.foldl_append, List.filter_append, List.map_append]
    by_cases hname : p.2.rule.name? = some name
    · simp only [List.foldl_cons, List.foldl_nil, hname, SortedMap.get?_insert_self, ih]
      split <;> simp [*]
    · have hlast : [p].filter (fun p => p.2.rule.name? == some name) = [] := by simp [hname]
      rw [hlast, List.map_nil, List.append_nil, ← ih, List.foldl_cons, List.foldl_nil]
      split
      · rename_i own hown
        have hne : compare name own ≠ .eq := fun heq =>
          hname (hown.trans (congrArg some (Std.LawfulEqOrd.eq_of_compare heq).symm))
        rw [SortedMap.get?_insert, if_neg hne]
      · rfl

theorem nodup_idsNamed (rules : SortedMap Identity CatalogRule) (name : String) :
    (idsNamed rules name).Nodup := by
  refine List.pairwise_map.2 ((rules.sorted.filter _).imp fun {a b} hlt heq => ?_)
  have hself : compare a.1 a.1 = .eq := Std.ReflCmp.compare_self
  rw [← heq, hself] at hlt
  cases hlt

theorem mem_idsNamed {rules : SortedMap Identity CatalogRule} {id : Identity} :
    id ∈ idsNamed rules name ↔ ∃ e, rules.get? id = some e ∧ e.rule.name? = some name := by
  simp [idsNamed, SortedMap.get?_eq_some_iff]

theorem getD_get?_byName (h : c.byName = namesOf c.rules) (name : String) :
    (c.byName.get? name).getD [] = idsNamed c.rules name := by
  rw [h, get?_namesOf]
  split <;> simp [*]

theorem isIndexed_of_byName_eq (h : c.byName = namesOf c.rules) : c.IsIndexed := by
  refine ⟨fun name id => ?_, fun name => ?_, fun name hnil => ?_⟩
  · rw [getD_get?_byName h, mem_idsNamed]
  · rw [getD_get?_byName h]
    exact nodup_idsNamed ..
  · rw [h, get?_namesOf] at hnil
    split at hnil
    · cases hnil
    · rename_i hne
      exact hne (Option.some.inj hnil)

/-- The rules that the index leads to are those with the name. -/
theorem named_eq_filter (h : c.byName = namesOf c.rules) (name : String) :
    c.named name = c.rules.values.filter fun e => e.rule.name? == some name := by
  have hids : (c.byName.get? name).getD [] = idsNamed c.rules name := getD_get?_byName h name
  have hget : ∀ p ∈ c.rules.toList.filter (fun p => p.2.rule.name? == some name),
      c.get? p.1 = some p.2 :=
    fun p hp => SortedMap.get?_eq_some_iff.2 (List.mem_filter.1 hp).1
  calc c.named name
      = (idsNamed c.rules name).filterMap c.get? := by rw [named, hids]
    _ = (c.rules.toList.filter fun p => p.2.rule.name? == some name).filterMap
          fun p => c.get? p.1 := by rw [idsNamed, List.filterMap_map]; rfl
    _ = (c.rules.toList.filter fun p => p.2.rule.name? == some name).map Prod.snd := by
        rw [List.filterMap_congr hget, List.filterMap_eq_map']
    _ = c.rules.values.filter fun e => e.rule.name? == some name := by
        rw [SortedMap.values, List.filter_map]
        rfl

theorem matching?_eq_of_byName_eq (h : c.byName = namesOf c.rules) (q : ReportedRule)
    {l : List CatalogRule} (hl : l.Perm c.rules.values) :
    c.matching? q = (q.findAmong (·.rule) l).found? := by
  unfold matching?
  rw [named_eq_filter h]
  refine congrArg MatchOutcome.found? (ReportedRule.findAmong_eq_of_perm ?_)
  rw [List.filter_filter]
  simpa using (hl.filter _).symm

/-- In the catalog of a sync that succeeds the index lists the rules of each name, and what is found
through it is what is found among all rules in any order, since candidates of other names and the
order of candidates make no difference. -/
theorem matching?_eq_of_run_sync {w w' : World} {stats : SyncStats}
    (hsync : (sync w.config).run World.perform w = (.ok stats, w')) :
    (∀ q l, l.Perm w'.catalog.rules.values →
      w'.catalog.matching? q = (q.findAmong (·.rule) l).found?)
    ∧ (∀ (q : ReportedRule) (l l' : List CatalogRule),
      (l.filter fun e => e.rule.name? == some q.name).Perm
        (l'.filter fun e => e.rule.name? == some q.name) →
      q.findAmong (·.rule) l = q.findAmong (·.rule) l')
    ∧ w'.catalog.IsIndexed := by
  obtain ⟨es, -, hbuild⟩ := Sources.catalog_eq_ok (World.built_of_run_sync hsync)
  have hnames : w'.catalog.byName = namesOf w'.catalog.rules := by
    rw [(Prod.mk.inj hbuild).1]
  exact ⟨fun q l hl => matching?_eq_of_byName_eq hnames q hl,
    fun q l l' h => ReportedRule.findAmong_eq_of_perm h, isIndexed_of_byName_eq hnames⟩

/-- A world with two rules of one name and one of another. -/
def sameNamed : World := (World.empty .default).withStore rules
where
  rules : Store RuleResource := .after [.upsert ⟨.fresh ⟨"team", "disk"⟩, [⟨"disk", none,
    [alert "DiskFull" "warning", alert "Up" "warning", alert "DiskFull" "critical"]⟩]⟩]
  alert (name severity : String) : Rule :=
    ⟨some name, none, "disk_used > 90", none, .ofList [("severity", severity)], ∅⟩
  reported : ReportedRule := ⟨"DiskFull", "disk_used > 90", 0, .ofList [("severity", "critical")]⟩

theorem matching?_eq_of_run_sync_sameNamed : ∃ stats w,
    (sync sameNamed.config).run World.perform sameNamed = (.ok stats, w)
    ∧ w.catalog.matching? sameNamed.reported
      = (sameNamed.reported.findAmong (·.rule) w.catalog.rules.values.reverse).found?
    ∧ w.catalog.IsIndexed := by
  have hentries : entriesIn sameNamed.config.relabelSecret sameNamed.sources.secret = .ok [] := rfl
  obtain ⟨stats, w, hsync, -⟩ := exists_run_sync hentries ⟨rfl, rfl⟩
  obtain ⟨hmatching, -, hindexed⟩ := matching?_eq_of_run_sync hsync
  exact ⟨stats, w, hsync, hmatching _ _ (List.reverse_perm _), hindexed⟩

end Catalog

end RuleCatalog
