import RuleCatalog.Proofs.Override.Effect

/-! # Merged entries of several rules

The entries of several rules stand in one list, each rule's in their own order. A rule is stamped at
most once and by its own anchor: before that its labels are as it states them, and afterwards the
stamp keeps all other entries away, whatever its overrides have made of its labels.
Main statement: `relabel_merged`. -/
namespace RuleCatalog.Override

/-- Lists merged into one that keeps the order of each: its first element is the first one of any
of the lists. -/
inductive IsMerge {ι α : Type} [DecidableEq ι] : (ι → List α) → List α → Prop
  | nil : IsMerge (fun _ => []) []
  | cons {lists : ι → List α} {merged : List α} (i : ι) (a : α) (h : IsMerge lists merged) :
    IsMerge (Function.update lists i (a :: lists i)) (a :: merged)

/-- Whether the anchors of some rules keep to their own rules, as these are stated. -/
structure IsApart {ι : Type} (rules : ι → Subject) : Prop where
  injective : Function.Injective fun i => (rules i).id
  ne_empty : ∀ i, (rules i).id ≠ .empty
  /-- The separator of an anchor's input, which an empty stamp puts in front. -/
  head?_ne : ∀ i, (rules i).id.text.toList.head? ≠ some ';'
  get?_ruleId : ∀ i, (rules i).stated.get? Label.ruleId = none
  match?_eq_none : ∀ i j, i ≠ j →
    (anchor (rules i).id (rules i).alertName (rules i).stated).step.match? (rules j).carried = none

/-- Whether labels are those that a rule states, with its name, or have been stamped for it. -/
def Bears (r : Subject) (labels : Labels) : Prop :=
  labels = r.carried ∨ labels.get? Label.ruleId = some r.id.text

/-- Whether an entry is one of a rule. -/
def IsOwn (r : Subject) (e : RelabelEntry) : Prop := ∃ s : State, s.IsValid ∧ e ∈ s.entries r

variable {a r : Subject} {labels labels' : Labels} {e : RelabelEntry}

theorem Reachable.isOwn {es : List RelabelEntry} (h : Reachable r es) : ∀ e ∈ es, IsOwn r e := by
  obtain ⟨s, hs, rfl⟩ := h.exists_eq_entries
  exact fun e he => ⟨s, hs, he⟩

/-- The shapes of the entries of a rule: its anchor, and what is scoped to its stamp and leaves the
stamp alone. -/
theorem IsOwn.cases (h : IsOwn r e) :
    e = anchor r.id r.alertName r.stated
      ∨ isScoped r.id e = true ∧ e.target ≠ Label.ruleId
        ∧ (e.action = .replace ∨ e.action = .drop) := by
  obtain ⟨s, hs, he⟩ := h
  rcases mem_entries he with rfl | ⟨p, hp, rfl⟩ | rfl
  · exact .inl rfl
  · have htarget : p.1 ≠ Label.ruleId := (ne_of_checkLabel (hs p.1 (List.mem_map_of_mem hp))).2
    exact .inr ⟨isScoped_override, htarget, .inl rfl⟩
  · have htarget : "" ≠ Label.ruleId := by decide
    exact .inr ⟨isScoped_silence, htarget, .inr rfl⟩

/-! ## Entries of other rules -/

/-- An anchor looks for labels without a stamp. -/
theorem match?_anchor_of_stamped (hhead : r.id.text.toList.head? ≠ some ';') (hid : r.id ≠ .empty)
    (h : labels.get? Label.ruleId = some r.id.text) :
    (anchor a.id a.alertName a.stated).step.match? labels = none := by
  have hinput : (anchor a.id a.alertName a.stated).input labels
      = r.id.text ++ ";" ++ String.intercalate ";" ((labels.get? Label.alertName).getD ""
        :: (anchoring a.stated).keys.map fun k => (labels.get? k).getD "") := by
    have hsources : (anchor a.id a.alertName a.stated).input labels
        = String.intercalate ";" ((labels.get? Label.ruleId).getD ""
          :: (labels.get? Label.alertName).getD ""
          :: (anchoring a.stated).keys.map fun k => (labels.get? k).getD "") := rfl
    rw [hsources, h, Option.getD_some, String.intercalate_cons_cons]
  rw [← Option.not_isSome_iff_eq_none, isSome_match?_exactly (anchor_regex a), hinput]
  rintro ⟨heq, -⟩
  -- the text of the identity would begin with the separator
  have hlist := congrArg (fun t => t.toList.head?) heq
  cases htext : r.id.text.toList with
  | nil =>
    have hempty : r.id.text = "" := String.toList_inj.1 htext
    exact hid (by cases hi : r.id; simp_all [Identity.empty])
  | cons c cs =>
    rw [htext] at hhead
    simp only [String.toList_append, htext] at hlist
    exact hhead hlist

/-- Entries of another rule do nothing to what a rule states, nor to what has its stamp. -/
theorem apply_of_bears_of_ne (he : IsOwn a e) (hne : r.id ≠ a.id) (ha : a.id ≠ .empty)
    (hr : r.id ≠ .empty) (hhead : r.id.text.toList.head? ≠ some ';')
    (hstamp : r.stated.get? Label.ruleId = none)
    (hanchor : (anchor a.id a.alertName a.stated).step.match? r.carried = none)
    (h : Bears r labels) : e.step.apply labels = .keep labels := by
  rcases he.cases with rfl | ⟨hscoped, -, haction⟩
  · refine apply_of_match?_eq_none (.inl rfl) ?_
    rcases h with rfl | h
    · exact hanchor
    · exact match?_anchor_of_stamped hhead hr h
  · refine apply_of_match?_eq_none haction ?_
    rcases h with rfl | h
    · exact match?_scoped_eq_none hscoped ha (get?_ruleId_carried hstamp)
    · rw [← Option.not_isSome_iff_eq_none, isSome_match?_scoped hscoped, h, Option.getD_some]
      exact fun htext => text_ne_of_ne hne htext.1

/-! ## Entries of the rule itself -/

theorem bears_of_apply (hid : r.id ≠ .empty) (hstamp : r.stated.get? Label.ruleId = none)
    (he : IsOwn r e) (h : Bears r labels) (happly : e.step.apply labels = .keep labels') :
    Bears r labels' := by
  rcases he.cases with rfl | ⟨hscoped, htarget, haction⟩
  · cases hmatch : (anchor r.id r.alertName r.stated).step.match? labels with
    | some c =>
      rw [apply_anchor_of_isSome hid (Option.isSome_of_eq_some hmatch)] at happly
      cases happly
      exact .inr (SortedMap.get?_insert_self ..)
    | none =>
      rw [apply_of_match?_eq_none (.inl rfl) hmatch] at happly
      cases happly
      exact h
  · rcases h with rfl | h
    · have hnone := match?_scoped_eq_none hscoped hid (get?_ruleId_carried hstamp)
      rw [apply_of_match?_eq_none haction hnone] at happly
      cases happly
      exact .inl rfl
    · right
      rw [get?_of_apply_eq_keep htarget happly, h]

/-! ## Merged lists -/

section merge
variable {ι : Type} [DecidableEq ι] {rules : ι → Subject} {lists : ι → List RelabelEntry}
  {merged : List RelabelEntry}

/-- A rule with its stamp or without passes a merged list as it passes its own one. -/
theorem relabel_merged_of_bears (hrules : IsApart rules) (hmerge : IsMerge lists merged)
    (hown : ∀ j, ∀ e ∈ lists j, IsOwn (rules j) e) {i : ι} (h : Bears (rules i) labels) :
    relabel merged labels = relabel (lists i) labels := by
  induction hmerge generalizing labels with
  | nil => rfl
  | @cons lists merged j e hmerge ih =>
    have hfirst : IsOwn (rules j) e :=
      hown j e (by rw [Function.update_self]; exact List.mem_cons_self)
    have hrest : ∀ k, ∀ e' ∈ lists k, IsOwn (rules k) e' := by
      intro k e' he'
      refine hown k e' ?_
      by_cases hk : k = j
      · subst hk
        rw [Function.update_self]
        exact List.mem_cons_of_mem _ he'
      · rwa [Function.update_of_ne hk]
    rw [relabel_cons]
    by_cases hij : i = j
    · subst hij
      rw [Function.update_self, relabel_cons]
      cases happly : e.step.apply labels with
      | drop => rfl
      | keep labels' =>
        exact ih hrest (bears_of_apply (hrules.ne_empty i) (hrules.get?_ruleId i) hfirst h happly)
    · have hne : (rules i).id ≠ (rules j).id := fun heq => hij (hrules.injective heq)
      rw [Function.update_of_ne hij, apply_of_bears_of_ne hfirst hne (hrules.ne_empty j)
        (hrules.ne_empty i) (hrules.head?_ne i) (hrules.get?_ruleId i)
        (hrules.match?_eq_none j i (Ne.symm hij)) h]
      exact ih hrest h

/-- However the entries of several rules are merged, each rule has the outcome that its own entries
have for it. -/
theorem relabel_merged (hrules : IsApart rules) (hlists : ∀ i, Reachable (rules i) (lists i))
    (hmerge : IsMerge lists merged) (i : ι) :
    relabel merged (rules i).carried = relabel (lists i) (rules i).carried :=
  relabel_merged_of_bears hrules hmerge (fun j => (hlists j).isOwn) (.inl rfl)

end merge

/-- A rule that its override makes look like its silenced twin is not silenced, with the entries of
both in turns. -/
theorem relabel_merged_lookalike :
    let entries : Bool → List RelabelEntry
      | false => State.entries (twins false) ⟨.ofList [("severity", "warning")], false⟩
      | true => State.entries (twins true) ⟨∅, true⟩
    let merged := [anchor ⟨"Watchdog;1a"⟩ "Watchdog" (twins false).stated,
      anchor ⟨"Watchdog;2b"⟩ "Watchdog" (twins true).stated,
      override ⟨"Watchdog;1a"⟩ "severity" "warning", silence ⟨"Watchdog;2b"⟩]
    IsApart twins ∧ (∀ i, Reachable (twins i) (entries i)) ∧ IsMerge entries merged
      ∧ relabel merged (twins false).carried = relabel (entries false) (twins false).carried
      ∧ relabel merged (twins false).carried ≠ .drop := by
  intro entries merged
  have hapart : IsApart twins := by
    refine ⟨fun i j h => ?_, ?_, ?_, ?_, ?_⟩
    · revert i j
      decide +kernel
    all_goals decide +kernel
  have hreachable : ∀ i, Reachable (twins i) (entries i) := by
    have hedit : Request.edit (twins false) [] (.update (.ofList [("severity", "warning")]))
        = .ok (.write (entries false)) := by decide +kernel
    have hdrop : Request.edit (twins true) [] .drop = .ok (.write (entries true)) := by
      decide +kernel
    intro i
    cases i with
    | false => exact Reachable.nil.edit hedit
    | true => exact Reachable.nil.edit hdrop
  have hmerge : IsMerge entries merged := by
    have h := ((((IsMerge.nil (ι := Bool)).cons true (silence ⟨"Watchdog;2b"⟩)).cons false
      (override ⟨"Watchdog;1a"⟩ "severity" "warning")).cons true
      (anchor ⟨"Watchdog;2b"⟩ "Watchdog" (twins true).stated)).cons false
      (anchor ⟨"Watchdog;1a"⟩ "Watchdog" (twins false).stated)
    refine (congrArg (IsMerge · merged) (funext fun i => ?_)).mp h
    revert i
    decide +kernel
  exact ⟨hapart, hreachable, hmerge, relabel_merged hapart hreachable hmerge false,
    by decide +kernel⟩

end RuleCatalog.Override
