import Mathlib.Data.List.Induction
import RuleCatalog.SortedMap

/-! # Building finite maps

A map is rebuilt from its own entries, and what filters and insertions do to values and keys. -/
namespace RuleCatalog.SortedMap
variable {κ β : Type} [Ord κ] [Std.TransOrd κ] [Std.LawfulEqOrd κ]

omit [Std.LawfulEqOrd κ] in
theorem put_eq_append {k : κ} {v : β} {l : List (κ × β)} (h : ∀ p ∈ l, compare p.1 k = .lt) :
    put k v l = l ++ [(k, v)] := by
  induction l with
  | nil => rfl
  | cons q l ih =>
    obtain ⟨q, w⟩ := q
    have hq : compare k q = .gt := Std.OrientedCmp.gt_of_lt (h (q, w) (by simp))
    have hl : put k v l = l ++ [(k, v)] := ih fun p hp => h p (by simp [hp])
    simp [put, hq, hl]

theorem toList_foldl_insert {l : List (κ × β)} {m : SortedMap κ β}
    (h : (m.toList ++ l).Pairwise (fun a b => compare a.1 b.1 = .lt)) :
    (l.foldl (fun m p => m.insert p.1 p.2) m).toList = m.toList ++ l := by
  induction l generalizing m with
  | nil => simp
  | cons p l ih =>
    have hp : (m.insert p.1 p.2).toList = m.toList ++ [p] := by
      refine put_eq_append fun q hq => ?_
      exact (List.pairwise_append.1 h).2.2 q hq p (by simp)
    rw [List.foldl_cons, ih (by simpa [hp] using h), hp]
    simp

/-- A map is the map of its entries. -/
theorem ofList_toList (m : SortedMap κ β) : ofList m.toList = m :=
  ext (toList_foldl_insert (m := ∅) (by simpa using m.sorted))

omit [Std.TransOrd κ] in
theorem get?_filter (m : SortedMap κ β) (p : κ → β → Bool) (k : κ) :
    (m.filter p).get? k = (m.get? k).filter (p k) := by
  refine Option.ext fun v => ?_
  have hmem : (k, v) ∈ (m.filter p).toList ↔ (k, v) ∈ m.toList ∧ p k v = true := by
    simp [filter]
  rw [get?_eq_some_iff, hmem, Option.filter_eq_some_iff, get?_eq_some_iff]

omit [Std.TransOrd κ] in
theorem mem_keys_iff {m : SortedMap κ β} {k : κ} : k ∈ m.keys ↔ ∃ v, m.get? k = some v := by
  constructor
  · intro h
    obtain ⟨q, hq, rfl⟩ := List.mem_map.1 h
    exact ⟨q.2, get?_eq_some_iff.2 hq⟩
  · rintro ⟨v, hv⟩
    exact List.mem_map_of_mem (get?_eq_some_iff.1 hv)

omit [Std.TransOrd κ] in
/-- The first key of an ordered list comes once. -/
theorem lookup_of_pairwise_cons {p : κ × β} {l : List (κ × β)}
    (h : (p :: l).Pairwise (fun a b => compare a.1 b.1 = .lt)) : lookup p.1 l = none := by
  rw [List.pairwise_cons] at h
  cases hv : lookup p.1 l with
  | none => rfl
  | some v =>
    have hlt := h.1 _ ((lookup_eq_some_iff h.2).1 hv)
    have heq : compare p.1 p.1 = .eq := Std.ReflCmp.compare_self
    rw [heq] at hlt
    cases hlt

omit [Std.TransOrd κ] [Std.LawfulEqOrd κ] in
theorem length_put {k : κ} {v : β} {l : List (κ × β)} (h : lookup k l = none) :
    (put k v l).length = l.length + 1 := by
  induction l with
  | nil => rfl
  | cons q l ih =>
    obtain ⟨q, w⟩ := q
    simp only [lookup] at h
    split at h
    · cases h
    · rename_i hne
      have hl : (put k v l).length = l.length + 1 := ih h
      cases hcmp : compare k q with
      | lt => simp [put, hcmp]
      | eq => exact absurd hcmp hne
      | gt => simp [put, hcmp, hl]

theorem size_insert {m : SortedMap κ β} {k : κ} (h : m.contains k = false) (v : β) :
    (m.insert k v).size = m.size + 1 := by
  have hnone : m.get? k = none := by simpa [contains] using h
  exact length_put hnone

/-- Of two entries with one key, the later one is in the map of a list. -/
theorem get?_ofList (l : List (κ × β)) (k : κ) : (ofList l).get? k = lookup k l.reverse := by
  induction l using List.reverseRecOn with
  | nil => rfl
  | append_singleton l p ih =>
    have hlast : ofList (l ++ [p]) = (ofList l).insert p.1 p.2 := by
      unfold ofList
      rw [List.foldl_append]
      rfl
    rw [hlast, get?_insert, ih, List.reverse_append]
    rfl

omit [Std.TransOrd κ] in
theorem mem_of_lookup {l : List (κ × β)} {k : κ} {v : β} (h : lookup k l = some v) :
    (k, v) ∈ l := by
  induction l with
  | nil => cases h
  | cons q l ih =>
    obtain ⟨q, w⟩ := q
    rw [lookup] at h
    split at h
    · rename_i heq
      obtain rfl := Std.LawfulEqOrd.eq_of_compare heq
      obtain rfl := Option.some.inj h
      exact List.mem_cons_self
    · exact List.mem_cons_of_mem _ (ih h)

omit [Std.TransOrd κ] in
theorem not_mem_of_lookup {l : List (κ × β)} {k : κ} (h : lookup k l = none) (v : β) :
    (k, v) ∉ l := by
  induction l with
  | nil => exact List.not_mem_nil
  | cons q l ih =>
    obtain ⟨q, w⟩ := q
    rw [lookup] at h
    split at h
    · cases h
    · rename_i hne
      rw [List.mem_cons]
      rintro (heq | hv)
      · obtain ⟨rfl, rfl⟩ := Prod.mk.inj heq
        exact hne Std.ReflCmp.compare_self
      · exact ih h hv

/-- A list whose entries are those of a function makes the map of the function. -/
theorem get?_ofList_of_mem_iff {l : List (κ × β)} {f : κ → Option β}
    (h : ∀ k v, (k, v) ∈ l ↔ f k = some v) (k : κ) : (ofList l).get? k = f k := by
  rw [get?_ofList]
  cases hl : lookup k l.reverse with
  | some v => exact ((h k v).1 (List.mem_reverse.1 (mem_of_lookup hl))).symm
  | none =>
    refine (Option.eq_none_iff_forall_ne_some.2 fun v hv => ?_).symm
    exact not_mem_of_lookup hl v (List.mem_reverse.2 ((h k v).2 hv))

/-- The map with the values of a function at some keys. -/
def ofKeys (ks : List κ) (f : κ → Option β) : SortedMap κ β :=
  ofList (ks.filterMap fun k => (f k).map (k, ·))

theorem get?_ofKeys {ks : List κ} {f : κ → Option β} (h : ∀ k v, f k = some v → k ∈ ks) (k : κ) :
    (ofKeys ks f).get? k = f k := by
  refine get?_ofList_of_mem_iff (fun k v => ?_) k
  simp only [List.mem_filterMap, Option.map_eq_some_iff, Prod.mk.injEq]
  constructor
  · rintro ⟨k', -, v', hv, rfl, rfl⟩
    exact hv
  · exact fun hv => ⟨k, h k v hv, v, hv, rfl, rfl⟩

end RuleCatalog.SortedMap
