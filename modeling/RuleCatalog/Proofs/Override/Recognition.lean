import RuleCatalog.Override.Edit
import RuleCatalog.Proofs.SortedMap

/-! # Recognising entries

Entries of rules with different identities are told apart, because neither the pattern nor the
replacement of a text is that of another text, and so are the three shapes of entries. -/
namespace RuleCatalog.Override
variable {id id' : Identity} {alertName label value : String} {stated : Labels}

theorem written_injective {s t : String} (h : written s = written t) : s = t := by
  rw [← read_written s, h, read_written]

theorem exactly_injective {s t : String} (h : exactly s = exactly t) : s = t := by
  have he : Pattern.escape s.toList = Pattern.escape t.toList := String.ofList_injective h
  exact String.toList_injective (Pattern.escape_injective he)

theorem text_ne_of_ne (h : id ≠ id') : id.text ≠ id'.text := by
  intro ht
  cases id
  cases id'
  exact h (congrArg Identity.mk ht)

/-! ## Anchors -/

theorem isAnchor_anchor : isAnchor id (anchor id alertName stated) = true := by
  simp [isAnchor, anchor, RelabelEntry.default]

theorem isAnchor_anchor_of_ne (h : id ≠ id') : isAnchor id (anchor id' alertName stated) = false := by
  have hw : written id'.text ≠ written id.text := fun hw =>
    text_ne_of_ne h (written_injective hw).symm
  simp [isAnchor, anchor, hw]

theorem isScoped_anchor : isScoped id (anchor id' alertName stated) = false := by
  simp [isScoped, anchor]

theorem pair?_anchor : pair? id (anchor id' alertName stated) = none := by
  simp [pair?, isScoped_anchor]

theorem isSilence_anchor : isSilence id (anchor id' alertName stated) = false := by
  simp [isSilence, isScoped_anchor]

/-! ## Overrides -/

theorem isAnchor_override (h : label ≠ Label.ruleId) :
    isAnchor id (override id' label value) = false := by
  simp [isAnchor, override, h]

theorem isScoped_override : isScoped id (override id label value) = true := by
  simp [isScoped, override]

theorem isScoped_override_of_ne (h : id ≠ id') : isScoped id (override id' label value) = false := by
  have he : exactly id'.text ≠ exactly id.text := fun he =>
    text_ne_of_ne h (exactly_injective he).symm
  simp [isScoped, override, he]

theorem pair?_override (hempty : label ≠ "") (hid : label ≠ Label.ruleId) :
    pair? id (override id label value) = some (label, value) := by
  have hscoped : isScoped id (override id label value) = true := isScoped_override
  unfold pair?
  rw [hscoped]
  simp [override, RelabelEntry.default, hempty, hid, read_written]

theorem isSilence_override : isSilence id (override id' label value) = false := by
  simp [isSilence, override, RelabelEntry.default]

/-! ## Silences -/

theorem isAnchor_silence : isAnchor id (silence id') = false := by
  simp [isAnchor, silence]

theorem isScoped_silence : isScoped id (silence id) = true := by
  simp [isScoped, silence]

theorem isScoped_silence_of_ne (h : id ≠ id') : isScoped id (silence id') = false := by
  have he : exactly id'.text ≠ exactly id.text := fun he =>
    text_ne_of_ne h (exactly_injective he).symm
  simp [isScoped, silence, he]

theorem pair?_silence : pair? id (silence id') = none := by
  simp [pair?, silence]

theorem isSilence_silence : isSilence id (silence id) = true := by
  have hscoped : isScoped id (silence id) = true := isScoped_silence
  simp only [isSilence, hscoped]
  rfl

/-! ## What belongs to a rule -/

theorem belongs_of_isAnchor {e : RelabelEntry} (h : isAnchor id e = true) : belongs id e = true := by
  simp [belongs, h]

theorem belongs_of_isScoped {e : RelabelEntry} (h : isScoped id e = true) : belongs id e = true := by
  simp [belongs, h]

theorem belongs_of_isSilence {e : RelabelEntry} (h : isSilence id e = true) :
    belongs id e = true := by
  have hs : isScoped id e = true := by
    simp only [isSilence, Bool.and_eq_true] at h
    exact h.2
  exact belongs_of_isScoped hs

theorem belongs_of_pair? {e : RelabelEntry} {p : String × String} (h : pair? id e = some p) :
    belongs id e = true := by
  unfold pair? at h
  split at h
  · rename_i hc
    simp only [Bool.and_eq_true] at hc
    exact belongs_of_isScoped hc.1.1.2
  · cases h

/-- What is read off a list is read off the entries of the rule. -/
theorem current_filter_belongs (id : Identity) (es : List RelabelEntry) :
    current id (es.filter (belongs id)) = current id es := by
  have hpairs : (es.filter (belongs id)).filterMap (pair? id) = es.filterMap (pair? id) := by
    induction es with
    | nil => rfl
    | cons e es ih =>
      rw [List.filter_cons]
      split
      · rw [List.filterMap_cons, List.filterMap_cons, ih]
      · rename_i hb
        have hp : pair? id e = none := by
          cases hp : pair? id e with
          | none => rfl
          | some p => exact absurd (belongs_of_pair? hp) hb
        rw [List.filterMap_cons, hp, ih]
  unfold current
  rw [hpairs]

theorem any_filter_belongs {p : RelabelEntry → Bool} (hp : ∀ e, p e = true → belongs id e = true)
    (es : List RelabelEntry) : (es.filter (belongs id)).any p = es.any p := by
  rw [Bool.eq_iff_iff, List.any_eq_true, List.any_eq_true]
  constructor
  · rintro ⟨e, he, hpe⟩
    exact ⟨e, (List.mem_filter.1 he).1, hpe⟩
  · rintro ⟨e, he, hpe⟩
    exact ⟨e, List.mem_filter.2 ⟨he, hp e hpe⟩, hpe⟩

theorem isDropped_filter_belongs (id : Identity) (es : List RelabelEntry) :
    isDropped id (es.filter (belongs id)) = isDropped id es :=
  any_filter_belongs (fun _ => belongs_of_isSilence) es

end RuleCatalog.Override
