import RuleCatalog.Catalog.Build
import RuleCatalog.Proofs.SortedMap

/-! # Labels that the catalog adds

Labels of the system are no part of the business labels, so neither the labels that are reported of
a rule nor the stamped ones differ from the stated ones in business, and the identity stays.
Main statement: `ofRule_toCatalogRule`. -/
namespace RuleCatalog

namespace Labels

theorem get?_business (labels : Labels) (k : String) :
    labels.business.get? k = if Label.isSystem k = true then none else labels.get? k := by
  unfold business
  rw [SortedMap.get?_filter]
  cases h : Label.isSystem k <;> cases labels.get? k <;> rfl

theorem business_insert (labels : Labels) {k : String} (h : Label.isSystem k = true) (v : String) :
    business (labels.insert k v) = labels.business := by
  refine SortedMap.ext_get? fun k' => ?_
  rw [get?_business, get?_business]
  split
  · rfl
  · rename_i hk'
    have hne : compare k' k ≠ .eq := fun he => hk' (Std.LawfulEqOrd.eq_of_compare he ▸ h)
    rw [SortedMap.get?_insert, if_neg hne]

theorem business_business (labels : Labels) : business labels.business = labels.business := by
  refine SortedMap.ext_get? fun k => ?_
  rw [get?_business, get?_business]
  split <;> rfl

end Labels

theorem Rule.business_reportedLabels (r : Rule) : r.reportedLabels.business = r.labels.business := by
  have hname : Label.isSystem Label.alertName = true := rfl
  unfold reportedLabels
  split
  · rw [Labels.business_insert _ hname, Labels.business_business]
  · exact Labels.business_business _

/-- Rules that differ only in labels of the system have one identity. -/
theorem Identity.ofRule_withLabels {r : Rule} {labels : Labels}
    (h : labels.business = r.labels.business) : ofRule { r with labels := labels } = ofRule r := by
  have hcontent : ∀ name, content { r with labels := labels } name = content r name := by
    intro name
    simp only [content, Rule.kind, h]
  unfold ofRule
  simp only [hcontent, Rule.name?]

namespace Definition

theorem business_stamp (labels : Labels) (id : Identity) (source : ObjectKey)
    (managedBy overrideManagedBy : Option Manager) :
    (stamp labels id source managedBy overrideManagedBy).business = labels.business := by
  have hid : Label.isSystem Label.ruleId = true := by decide
  have hspace : Label.isSystem Label.ownerNamespace = true := by decide
  have hname : Label.isSystem Label.ownerName = true := by decide
  have hmanager : Label.isSystem Label.ruleManagedBy = true := by decide
  have hoverride : Label.isSystem Label.overrideManagedBy = true := by decide
  unfold stamp
  cases managedBy <;> cases overrideManagedBy <;>
    simp only [Labels.business_insert _ hid, Labels.business_insert _ hspace,
      Labels.business_insert _ hname, Labels.business_insert _ hmanager,
      Labels.business_insert _ hoverride]

theorem ofRule_toCatalogRule {d : Definition} {labels : Labels}
    (h : labels.business = d.rule.labels.business) (s : Surroundings) (id : Identity) :
    Identity.ofRule (d.toCatalogRule s id labels).rule = Identity.ofRule d.rule :=
  Identity.ofRule_withLabels (by rw [business_stamp, h])

end Definition

end RuleCatalog
