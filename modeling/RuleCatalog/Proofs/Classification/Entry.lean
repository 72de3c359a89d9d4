import RuleCatalog.Classification.Entry
import RuleCatalog.Proofs.Classification.Key

/-! # Checks of classifications

A patch that passes its checks makes an entry that passes them of one that does.
Main statement: `ClassificationPatch.isValid_apply`. -/
namespace RuleCatalog

theorem toNat_lt_of_isAlphanum {c : Char} (h : c.isAlphanum = true) : c.toNat < 128 := by
  rw [Text.isAlphanum_iff, Text.isAlpha_iff, Text.isDigit_iff] at h
  omega

/-- The value of a label is ASCII, so that it has as many bytes as characters. -/
theorem length_bytes_le_of_isLabelValue {v : String} (h : isLabelValue v = true) :
    (Utf8.bytes v).length ≤ 63 := by
  simp only [isLabelValue, Bool.and_eq_true, decide_eq_true_eq, List.all_eq_true] at h
  obtain ⟨⟨-, hlength⟩, hchars⟩ := h
  have hascii : ∀ c ∈ v.toList, c.toNat < 128 := by
    intro c hc
    have hlabel := hchars c hc
    simp only [Bool.or_eq_true, beq_iff_eq] at hlabel
    rcases hlabel with ((h | rfl) | rfl) | rfl
    · exact toNat_lt_of_isAlphanum h
    all_goals decide
  rw [← String.ofList_toList (s := v), Utf8.bytes_ofList_of_ascii hascii, List.length_map]
  exact hlength

/-- Whether every field has a value that a patch may set. -/
structure Classification.IsValid (e : Classification) : Prop where
  layer : ∀ l, e.layer = some l → l = "cluster" ∨ l = "namespace"
  component : ∀ v, e.component = some v → isLabelValue v = true ∧ (Utf8.bytes v).length ≤ 63
  componentFrom : ∀ n, e.componentFrom = some n → Label.isName n = true
  layerFrom : ∀ n, e.layerFrom = some n → Label.isName n = true

theorem Classification.isValid_empty : Classification.empty.IsValid where
  layer _ h := by cases h
  component _ h := by cases h
  componentFrom _ h := by cases h
  layerFrom _ h := by cases h

theorem Layer.eq_of_read {l : String} {layer : Layer} (h : Layer.read l = .ok layer) :
    l = "cluster" ∨ l = "namespace" := by
  unfold Layer.read at h
  split at h
  · exact .inl ‹_›
  · split at h
    · exact .inr ‹_›
    · cases h

namespace ClassificationPatch
variable {p : ClassificationPatch} {current : Option Classification} {e : Classification}

/-- A field has what a check accepts, if it had before and the patch is checked. -/
theorem forall_apply_field {P : String → Prop} {f : FieldPatch}
    {check : String → Except ValidationError Unit} (hcheck : checkField f check = .ok ())
    (hP : ∀ v, check v = .ok () → P v) {old : Option String} (hold : ∀ v, old = some v → P v) :
    ∀ v, f.apply old = some v → P v := by
  intro v hv
  cases f with
  | unset => exact hold v hv
  | clear => cases hv
  | set w =>
    by_cases hw : w = ""
    · simp only [FieldPatch.apply, if_pos hw] at hv
      cases hv
    · simp only [FieldPatch.apply, if_neg hw] at hv
      simp only [checkField, FieldPatch.value?, if_neg hw] at hcheck
      obtain rfl := Option.some.inj hv
      exact hP w hcheck

theorem checks_of_validate (h : p.validate = .ok ()) :
    (checkField p.layer fun v => (Layer.read v).map fun _ => ()) = .ok ()
      ∧ checkField p.component checkComponent = .ok ()
      ∧ checkField p.componentFrom checkLabelName = .ok ()
      ∧ checkField p.layerFrom checkLabelName = .ok () := by
  unfold validate at h
  cases hlayer : checkField p.layer fun v => (Layer.read v).map fun _ => () with
  | error e =>
    rw [hlayer] at h
    cases h
  | ok u =>
    cases hcomponent : checkField p.component checkComponent with
    | error e =>
      rw [hlayer, hcomponent] at h
      cases h
    | ok u =>
      cases hfrom : checkField p.componentFrom checkLabelName with
      | error e =>
        rw [hlayer, hcomponent, hfrom] at h
        cases h
      | ok u =>
        rw [hlayer, hcomponent, hfrom] at h
        exact ⟨rfl, rfl, rfl, h⟩

theorem isEmpty_apply (h : p.apply current = some e) : e.isEmpty = false := by
  unfold apply at h
  dsimp only at h
  split at h
  · cases h
  · rename_i hempty
    obtain rfl := Option.some.inj h
    exact Bool.eq_false_iff.2 hempty

theorem isValid_apply (hp : p.validate = .ok ()) (hcurrent : ∀ e, current = some e → e.IsValid)
    (h : p.apply current = some e) : e.IsValid := by
  have hold : (current.getD .empty).IsValid := by
    cases current with
    | none => exact Classification.isValid_empty
    | some e => exact hcurrent e rfl
  obtain ⟨hlayer, hcomponent, hcomponentFrom, hlayerFrom⟩ := checks_of_validate hp
  have hname : ∀ v, checkLabelName v = .ok () → Label.isName v = true := by
    intro v hv
    unfold checkLabelName at hv
    split at hv
    · assumption
    · cases hv
  unfold apply at h
  dsimp only at h
  split at h
  · cases h
  · obtain rfl := Option.some.inj h
    exact {
      layer := forall_apply_field hlayer (fun v hv => by
        cases hread : Layer.read v with
        | error e =>
          rw [hread] at hv
          cases hv
        | ok layer => exact Layer.eq_of_read hread) hold.layer
      component := forall_apply_field hcomponent (fun v hv => by
        unfold checkComponent at hv
        split at hv
        · exact ⟨‹_›, length_bytes_le_of_isLabelValue ‹_›⟩
        · cases hv) hold.component
      componentFrom := forall_apply_field hcomponentFrom hname hold.componentFrom
      layerFrom := forall_apply_field hlayerFrom hname hold.layerFrom }

theorem eq_of_isNoop (h : p.isNoop = true) : p = ⟨.unset, .unset, .unset, .unset⟩ := by
  obtain ⟨component, layer, componentFrom, layerFrom⟩ := p
  simp only [isNoop, Bool.and_eq_true, beq_iff_eq] at h
  obtain ⟨⟨⟨rfl, rfl⟩, rfl⟩, rfl⟩ := h
  rfl

theorem validate_of_isNoop (h : p.isNoop = true) : p.validate = .ok () := by
  rw [eq_of_isNoop h]
  rfl

/-- A patch that leaves all fields leaves every entry that is kept. -/
theorem apply_of_isNoop (h : p.isNoop = true)
    (hcurrent : ∀ e, current = some e → e.isEmpty = false) : p.apply current = current := by
  rw [eq_of_isNoop h]
  cases current with
  | none => rfl
  | some e =>
    have hempty := hcurrent e rfl
    obtain ⟨component, layer, componentFrom, layerFrom⟩ := e
    exact if_neg (Bool.eq_false_iff.1 hempty)

end ClassificationPatch

end RuleCatalog
