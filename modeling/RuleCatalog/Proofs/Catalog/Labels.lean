import RuleCatalog.Proofs.Catalog.Account

/-! # What the labels of the catalog say

A rule of the catalog has labels that say what its fields say: its identity, the resource that
defines it and the managers of this resource and of its overrides. They are added after
relabeling, those of managers only where there is a manager: where there is none, a label with
their name that relabeling leaves stays. Main statement: `isTruthful_iff_of_run_sync`. -/
namespace RuleCatalog

namespace CatalogRule

/-- Whether a rule has a label for each thing that its fields say. -/
structure IsStamped (e : CatalogRule) : Prop where
  ruleId : e.rule.labels.get? Label.ruleId = some e.identity.text
  ownerNamespace : e.rule.labels.get? Label.ownerNamespace = some e.source.space
  ownerName : e.rule.labels.get? Label.ownerName = some e.source.name
  ruleManagedBy : ∀ m ∈ e.managedBy, e.rule.labels.get? Label.ruleManagedBy = some m.text
  overrideManagedBy : ∀ m ∈ e.overrideManagedBy,
    e.rule.labels.get? Label.overrideManagedBy = some m.text

/-- Whether labels have none for a manager that a rule does not have. -/
structure IsUnclaimed (e : CatalogRule) (labels : Labels) : Prop where
  ruleManagedBy : e.managedBy = none → labels.get? Label.ruleManagedBy = none
  overrideManagedBy : e.overrideManagedBy = none → labels.get? Label.overrideManagedBy = none

/-- Whether the labels of a rule say what its fields say, and no more. -/
structure IsTruthful (e : CatalogRule) : Prop extends e.IsStamped where
  unclaimed : e.IsUnclaimed e.rule.labels

end CatalogRule

/-- Of the labels of the system, only the name of an alert is among the reported ones. -/
theorem Rule.get?_reportedLabels {r : Rule} {k : String} (hk : Label.isSystem k = true)
    (hname : k ≠ Label.alertName) : r.reportedLabels.get? k = none := by
  have hbusiness : r.labels.business.get? k = none := by rw [Labels.get?_business, if_pos hk]
  unfold reportedLabels
  split
  · rwa [SortedMap.get?_insert, if_neg fun h => hname (Std.LawfulEqOrd.eq_of_compare h)]
  · exact hbusiness

namespace Definition
variable {s : Surroundings} {d : Definition} {id : Identity} {labels : Labels} {e : CatalogRule}

/-- The value of a label after stamping: what is added, or else what is there. -/
theorem get?_stamp (labels : Labels) (id : Identity) (source : ObjectKey)
    (managedBy overrideManagedBy : Option Manager) (k : String) :
    (stamp labels id source managedBy overrideManagedBy).get? k
      = if k = Label.overrideManagedBy then
          (overrideManagedBy.map Manager.text).or (labels.get? k)
        else if k = Label.ruleManagedBy then (managedBy.map Manager.text).or (labels.get? k)
        else if k = Label.ownerName then some source.name
        else if k = Label.ownerNamespace then some source.space
        else if k = Label.ruleId then some id.text
        else labels.get? k := by
  have hmanager : Label.ruleManagedBy ≠ Label.overrideManagedBy := by decide
  have hname : Label.ownerName ∉ [Label.overrideManagedBy, Label.ruleManagedBy] := by decide
  have hspace : Label.ownerNamespace ∉ [Label.overrideManagedBy, Label.ruleManagedBy] := by decide
  have hid : Label.ruleId ∉ [Label.overrideManagedBy, Label.ruleManagedBy] := by decide
  unfold stamp
  cases managedBy <;> cases overrideManagedBy <;>
    simp only [SortedMap.get?_insert, Std.LawfulEqCmp.compare_eq_iff_eq] <;> grind

/-- A manager's label is that of a manager who is there, or else the one that relabeling leaves. -/
theorem get?_ruleManagedBy :
    (d.toCatalogRule s id labels).rule.labels.get? Label.ruleManagedBy
      = (d.owner.managedBy?.map Manager.text).or (labels.get? Label.ruleManagedBy) :=
  get?_stamp ..

theorem get?_overrideManagedBy :
    (d.toCatalogRule s id labels).rule.labels.get? Label.overrideManagedBy
      = ((s.overrideManager? id).map Manager.text).or (labels.get? Label.overrideManagedBy) :=
  get?_stamp ..

theorem isStamped_toCatalogRule (s : Surroundings) (d : Definition) (id : Identity)
    (labels : Labels) : (d.toCatalogRule s id labels).IsStamped where
  ruleId := get?_stamp ..
  ownerNamespace := get?_stamp ..
  ownerName := get?_stamp ..
  ruleManagedBy m hm := by
    have hmanager : d.owner.managedBy? = some m := hm
    rw [get?_ruleManagedBy, hmanager]
    rfl
  overrideManagedBy m hm := by
    have hmanager : s.overrideManager? id = some m := hm
    rw [get?_overrideManagedBy, hmanager]
    rfl

theorem isTruthful_toCatalogRule_iff : (d.toCatalogRule s id labels).IsTruthful
    ↔ (d.toCatalogRule s id labels).IsUnclaimed labels := by
  have hunclaimed : (d.toCatalogRule s id labels).IsUnclaimed
      (d.toCatalogRule s id labels).rule.labels
        ↔ (d.toCatalogRule s id labels).IsUnclaimed labels := by
    have hrule (hm : d.owner.managedBy? = none) :
        (d.toCatalogRule s id labels).rule.labels.get? Label.ruleManagedBy
          = labels.get? Label.ruleManagedBy := by
      rw [get?_ruleManagedBy, hm]
      rfl
    have hoverride (hm : s.overrideManager? id = none) :
        (d.toCatalogRule s id labels).rule.labels.get? Label.overrideManagedBy
          = labels.get? Label.overrideManagedBy := by
      rw [get?_overrideManagedBy, hm]
      rfl
    constructor
    · exact fun h => ⟨fun hm => (hrule hm).symm.trans (h.ruleManagedBy hm),
        fun hm => (hoverride hm).symm.trans (h.overrideManagedBy hm)⟩
    · exact fun h => ⟨fun hm => (hrule hm).trans (h.ruleManagedBy hm),
        fun hm => (hoverride hm).trans (h.overrideManagedBy hm)⟩
  exact ⟨fun h => hunclaimed.1 h.unclaimed,
    fun h => ⟨isStamped_toCatalogRule s d id labels, hunclaimed.2 h⟩⟩

theorem isUnclaimed_reportedLabels (e : CatalogRule) (r : Rule) :
    e.IsUnclaimed r.reportedLabels where
  ruleManagedBy _ := Rule.get?_reportedLabels (by decide) (by decide)
  overrideManagedBy _ := Rule.get?_reportedLabels (by decide) (by decide)

/-- A rule that relabeling has not changed is truthful. -/
theorem isTruthful_of_reported (s : Surroundings) (d : Definition) (id : Identity) :
    (d.toCatalogRule s id d.rule.reportedLabels).IsTruthful :=
  isTruthful_toCatalogRule_iff.2 (isUnclaimed_reportedLabels _ _)

theorem outcome_of_trust (h : Trust.of s.isPlatform d.owner.space = .platformManaged) :
    d.outcome s = relabel s.entries d.rule.reportedLabels :=
  if_pos (Trust.of_eq_platformManaged_iff.1 h)

/-- What stands for a definition is truthful unless relabeling leaves it a label for a manager
that is not there. -/
theorem isTruthful_iff_of_held (h : (d.held s).1 = some e ∨ (d.held s).2 = some e) :
    e.identity = Identity.ofRule d.rule ∧ e.IsStamped
      ∧ (e.IsTruthful ↔ ∀ labels, e.trust = .platformManaged →
        relabel s.entries e.stated.reportedLabels = .keep labels → e.IsUnclaimed labels) := by
  obtain ⟨labels, houtcome, hheld⟩ | ⟨houtcome, hheld⟩ := d.held_cases s
  · obtain rfl : d.toCatalogRule s (Identity.ofRule d.rule) labels = e := by
      simpa [hheld] using h
    refine ⟨rfl, isStamped_toCatalogRule .., fun htruthful labels' htrust hkeep => ?_, fun h => ?_⟩
    · rw [outcome_of_trust htrust] at houtcome
      obtain rfl := RelabelOutcome.keep.inj (houtcome.symm.trans hkeep)
      exact isTruthful_toCatalogRule_iff.1 htruthful
    · cases hplatform : s.isPlatform d.owner.space with
      | true =>
        have htrust : Trust.of s.isPlatform d.owner.space = .platformManaged :=
          Trust.of_eq_platformManaged_iff.2 hplatform
        have hkeep := (outcome_of_trust htrust).symm.trans houtcome
        exact isTruthful_toCatalogRule_iff.2 (h labels htrust hkeep)
      | false =>
        -- the rules of users are not relabeled
        rw [outcome, hplatform] at houtcome
        obtain rfl := RelabelOutcome.keep.inj houtcome
        exact isTruthful_of_reported ..
  · obtain rfl : d.toCatalogRule s (Identity.ofRule d.rule) d.rule.reportedLabels = e := by
      simpa [hheld] using h
    refine ⟨rfl, isStamped_toCatalogRule .., fun _ labels htrust hkeep => ?_,
      fun _ => isTruthful_of_reported ..⟩
    rw [outcome_of_trust htrust] at houtcome
    cases houtcome.symm.trans hkeep

end Definition

namespace Catalog
variable {s : Surroundings} {store : Store RuleResource} {id : Identity} {e : CatalogRule}

theorem isTruthful_iff_of_build (h : (build s store.list).1.rules.get? id = some e
      ∨ (build s store.list).1.dropped.get? id = some e) :
    e.identity = id ∧ e.IsStamped ∧ (e.IsTruthful ↔ ∀ labels, e.trust = .platformManaged →
      relabel s.entries e.stated.reportedLabels = .keep labels → e.IsUnclaimed labels) := by
  obtain ⟨p, d, hp, hheld⟩ | hheld := held_build_cases s store id
  · obtain ⟨hrules, hdropped⟩ := Prod.mk.inj hheld
    rw [hrules, hdropped] at h
    have hheld := Definition.isTruthful_iff_of_held h
    rwa [hp.has.2] at hheld
  · obtain ⟨hrules, hdropped⟩ := Prod.mk.inj hheld
    rw [hrules, hdropped] at h
    rcases h with h | h <;> cases h

/-- In the catalog of a sync that succeeds, every rule has the labels that say what it is; and they
say no more unless relabeling leaves a rule of the platform a label for a manager it does not
have. -/
theorem isTruthful_iff_of_run_sync {w w' : World} {stats : SyncStats}
    (hsync : (sync w.config).run World.perform w = (.ok stats, w'))
    (he : w'.catalog.rules.get? id = some e ∨ w'.catalog.dropped.get? id = some e) :
    e.identity = id ∧ e.IsStamped ∧ (e.IsTruthful ↔ ∀ labels, e.trust = .platformManaged →
      relabel w'.catalog.entries e.stated.reportedLabels = .keep labels →
      e.IsUnclaimed labels) := by
  obtain ⟨es, -, hbuild⟩ := Sources.catalog_eq_ok (World.built_of_run_sync hsync)
  obtain ⟨hcatalog, -⟩ := Prod.mk.inj hbuild
  rw [hcatalog] at he ⊢
  exact isTruthful_iff_of_build he

/-- A rule of the platform whose resource has no manager, with an entry that sets the label of
one. -/
def claimed : World := ((World.empty .default).withStore secrets).withStore rules
where
  secrets : Store Secret := .after [.upsert
    ⟨.fresh ⟨"openshift-monitoring", "alert-relabel-configs"⟩, .ofList [("config.yaml", Utf8.bytes
      "- {source_labels: [alertname], regex: DiskFull, target_label: openshift_io_rule_managed_by,
          replacement: gitops}")]⟩]
  rules : Store RuleResource := .after [
    .upsert ⟨.fresh ⟨"openshift-monitoring", "disk"⟩, [⟨"disk", none, [rule]⟩]⟩]
  rule : Rule := ⟨some "DiskFull", none, "disk_used > 90", none, ∅, ∅⟩

theorem exists_sync_claimed : ∃ stats w id e,
    (sync claimed.config).run World.perform claimed = (.ok stats, w)
    ∧ w.catalog.rules.get? id = some e ∧ e.managedBy = none
    ∧ e.rule.labels.get? Label.ruleManagedBy = some "gitops" := by
  have hrun : (((sync claimed.config).run World.perform claimed).1,
      ((sync claimed.config).run World.perform claimed).2.catalog.rules.toList.map fun p =>
        (p.2.managedBy, p.2.rule.labels.get? Label.ruleManagedBy))
      = (.ok ⟨1, 0, 0⟩, [(none, some "gitops")]) := by decide +kernel
  obtain ⟨hreply, hlabel⟩ := Prod.mk.inj hrun
  obtain ⟨w, hsync⟩ : ∃ w, (sync claimed.config).run World.perform claimed
      = (.ok ⟨1, 0, 0⟩, w) := ⟨_, by rw [← hreply]⟩
  rw [hsync] at hlabel
  obtain ⟨⟨id, e⟩, he, hfields⟩ := List.mem_map.1 (hlabel ▸ List.mem_singleton_self _)
  obtain ⟨hmanager, hget⟩ := Prod.mk.inj hfields
  exact ⟨_, w, id, e, hsync, SortedMap.get?_eq_some_iff.2 he, hmanager, hget⟩

theorem isTruthful_iff_of_run_sync_claimed : ∃ stats w id e,
    (sync claimed.config).run World.perform claimed = (.ok stats, w)
    ∧ w.catalog.rules.get? id = some e ∧ e.identity = id ∧ e.IsStamped
    ∧ (e.IsTruthful ↔ ∀ labels, e.trust = .platformManaged →
      relabel w.catalog.entries e.stated.reportedLabels = .keep labels →
      e.IsUnclaimed labels) := by
  obtain ⟨stats, w, id, e, hsync, he, -⟩ := exists_sync_claimed
  exact ⟨stats, w, id, e, hsync, he, isTruthful_iff_of_run_sync hsync (.inl he)⟩

/-- Relabel entries can give a rule the label of a manager that it does not have. -/
theorem not_isTruthful_of_relabeled : ∃ stats w id e,
    (sync claimed.config).run World.perform claimed = (.ok stats, w)
    ∧ w.catalog.rules.get? id = some e ∧ ¬ e.IsTruthful := by
  obtain ⟨stats, w, id, e, hsync, he, hmanager, hlabel⟩ := exists_sync_claimed
  refine ⟨stats, w, id, e, hsync, he, fun h => ?_⟩
  rw [h.unclaimed.ruleManagedBy hmanager] at hlabel
  cases hlabel

end Catalog

end RuleCatalog
