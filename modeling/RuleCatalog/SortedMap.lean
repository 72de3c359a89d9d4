/-! # Finite maps in key order

A finite map is the list of its entries with strictly increasing keys, so that two maps with
the same entries are the same map, and every listing is in key order.
Main statements: `get?_insert`, `get?_erase`, and extensionality `ext_get?`. -/
namespace RuleCatalog

/-- A finite map from keys of an ordered type. -/
structure SortedMap (κ β : Type) [Ord κ] where
  toList : List (κ × β)
  sorted : toList.Pairwise (fun a b => compare a.1 b.1 = .lt)
  deriving Repr

namespace SortedMap
variable {κ β γ : Type} [Ord κ]

@[ext] theorem ext {m n : SortedMap κ β} (h : m.toList = n.toList) : m = n := by
  cases m; cases n; simp_all

instance [DecidableEq κ] [DecidableEq β] : DecidableEq (SortedMap κ β) := fun m n =>
  decidable_of_iff (m.toList = n.toList) ⟨SortedMap.ext, fun h => h ▸ rfl⟩

instance : EmptyCollection (SortedMap κ β) := ⟨⟨[], .nil⟩⟩
instance : Inhabited (SortedMap κ β) := ⟨∅⟩

@[simp] theorem toList_empty : (∅ : SortedMap κ β).toList = [] := rfl

/-- The value of a key in a list of entries; the first entry wins. -/
def lookup (k : κ) : List (κ × β) → Option β
  | [] => none
  | (k', v) :: l => if compare k k' = .eq then some v else lookup k l

/-- Puts an entry at its place in an ordered list, over an entry with the same key. -/
def put (k : κ) (v : β) : List (κ × β) → List (κ × β)
  | [] => [(k, v)]
  | (k', v') :: l =>
    match compare k k' with
    | .lt => (k, v) :: (k', v') :: l
    | .eq => (k, v) :: l
    | .gt => (k', v') :: put k v l

def get? (m : SortedMap κ β) (k : κ) : Option β := lookup k m.toList
def contains (m : SortedMap κ β) (k : κ) : Bool := (m.get? k).isSome
def isEmpty (m : SortedMap κ β) : Bool := m.toList.isEmpty
def size (m : SortedMap κ β) : Nat := m.toList.length
def keys (m : SortedMap κ β) : List κ := m.toList.map (·.1)
def values (m : SortedMap κ β) : List β := m.toList.map (·.2)

theorem mem_put {k : κ} {v : β} {l : List (κ × β)} {p : κ × β} (h : p ∈ put k v l) :
    p = (k, v) ∨ p ∈ l := by
  induction l with
  | nil => simpa [put] using h
  | cons q l ih =>
    obtain ⟨k', v'⟩ := q
    simp only [put] at h
    split at h <;> grind

variable [Std.TransOrd κ] [Std.LawfulEqOrd κ]

theorem pairwise_put {k : κ} {v : β} {l : List (κ × β)}
    (h : l.Pairwise (fun a b => compare a.1 b.1 = .lt)) :
    (put k v l).Pairwise (fun a b => compare a.1 b.1 = .lt) := by
  induction l with
  | nil => simp [put]
  | cons q l ih =>
    obtain ⟨k', v'⟩ := q
    rw [List.pairwise_cons] at h
    simp only [put]
    split
    · rename_i hlt
      refine List.pairwise_cons.2 ⟨fun p hp => ?_, List.pairwise_cons.2 h⟩
      rcases List.mem_cons.1 hp with rfl | hp
      · exact hlt
      · exact Std.TransCmp.lt_trans hlt (h.1 p hp)
    · rename_i heq
      refine List.pairwise_cons.2 ⟨fun p hp => ?_, h.2⟩
      have := Std.LawfulEqOrd.eq_of_compare heq
      subst this
      exact h.1 p hp
    · rename_i hgt
      refine List.pairwise_cons.2 ⟨fun p hp => ?_, ih h.2⟩
      rcases mem_put hp with rfl | hp
      · exact Std.OrientedCmp.lt_of_gt hgt
      · exact h.1 p hp

def insert (m : SortedMap κ β) (k : κ) (v : β) : SortedMap κ β :=
  ⟨put k v m.toList, pairwise_put m.sorted⟩

def erase (m : SortedMap κ β) (k : κ) : SortedMap κ β :=
  ⟨m.toList.filter (fun p => compare k p.1 != .eq), m.sorted.filter _⟩

/-- The entries whose key and value pass a test. -/
def filter (m : SortedMap κ β) (p : κ → β → Bool) : SortedMap κ β :=
  ⟨m.toList.filter (fun e => p e.1 e.2), m.sorted.filter _⟩

/-- The map of a list of entries; of two entries with one key the later wins. -/
def ofList (l : List (κ × β)) : SortedMap κ β := l.foldl (fun m p => m.insert p.1 p.2) ∅

theorem lookup_put (k k' : κ) (v : β) (l : List (κ × β)) :
    lookup k' (put k v l) = if compare k' k = .eq then some v else lookup k' l := by
  induction l with
  | nil => simp [put, lookup]
  | cons q l ih =>
    obtain ⟨q, w⟩ := q
    simp only [put]
    split
    · simp [lookup]
    · rename_i heq
      obtain rfl := Std.LawfulEqOrd.eq_of_compare heq
      simp only [lookup]
      split <;> rfl
    · rename_i hgt
      simp only [lookup, ih]
      split
      · rename_i h
        obtain rfl := Std.LawfulEqOrd.eq_of_compare h
        simp [Std.OrientedCmp.lt_of_gt hgt]
      · rfl

omit [Std.TransOrd κ] [Std.LawfulEqOrd κ] in
@[simp] theorem get?_empty (k : κ) : (∅ : SortedMap κ β).get? k = none := rfl

theorem get?_insert (m : SortedMap κ β) (k k' : κ) (v : β) :
    (m.insert k v).get? k' = if compare k' k = .eq then some v else m.get? k' :=
  lookup_put k k' v m.toList

@[simp] theorem get?_insert_self (m : SortedMap κ β) (k : κ) (v : β) :
    (m.insert k v).get? k = some v := by simp [get?_insert]

theorem lookup_erase (k k' : κ) (l : List (κ × β)) :
    lookup k' (l.filter (fun p => compare k p.1 != .eq))
      = if compare k k' = .eq then none else lookup k' l := by
  induction l with
  | nil => simp [lookup]
  | cons q l ih =>
    obtain ⟨q, w⟩ := q
    by_cases hq : compare k q = .eq
    · obtain rfl := Std.LawfulEqOrd.eq_of_compare hq
      simp only [hq, bne_self_eq_false, Bool.false_eq_true, not_false_eq_true,
        List.filter_cons_of_neg, ih, lookup]
      split
      · rfl
      · rename_i h
        rw [if_neg (fun h' => h (Std.OrientedCmp.eq_symm h'))]
    · simp only [List.filter_cons_of_pos (p := fun p : κ × β => compare k p.1 != .eq)
        (by simpa using hq : (compare k (q, w).1 != .eq) = true), lookup, ih]
      split
      · rename_i h
        obtain rfl := Std.LawfulEqOrd.eq_of_compare h
        rw [if_neg hq]
      · rfl

theorem get?_erase (m : SortedMap κ β) (k k' : κ) :
    (m.erase k).get? k' = if compare k k' = .eq then none else m.get? k' :=
  lookup_erase k k' m.toList

omit [Std.TransOrd κ] in
theorem lookup_eq_some_iff {l : List (κ × β)}
    (h : l.Pairwise (fun a b => compare a.1 b.1 = .lt)) {k : κ} {v : β} :
    lookup k l = some v ↔ (k, v) ∈ l := by
  induction l with
  | nil => simp [lookup]
  | cons q l ih =>
    obtain ⟨q, w⟩ := q
    rw [List.pairwise_cons] at h
    simp only [lookup, List.mem_cons, Prod.mk.injEq]
    split
    · rename_i heq
      obtain rfl := Std.LawfulEqOrd.eq_of_compare heq
      constructor
      · rintro ⟨⟩; simp
      · rintro (⟨_, rfl⟩ | hm)
        · rfl
        · exact absurd (h.1 _ hm) (by simp)
    · rename_i hne
      rw [ih h.2]
      constructor
      · exact .inr
      · rintro (⟨rfl, rfl⟩ | hm)
        · exact absurd Std.ReflCmp.compare_self hne
        · exact hm

omit [Std.TransOrd κ] in
theorem get?_eq_some_iff {m : SortedMap κ β} {k : κ} {v : β} :
    m.get? k = some v ↔ (k, v) ∈ m.toList := lookup_eq_some_iff m.sorted

/-- Ordered lists with the same members are the same list. -/
theorem eq_of_mem_iff {l l' : List (κ × β)}
    (h : l.Pairwise (fun a b => compare a.1 b.1 = .lt))
    (h' : l'.Pairwise (fun a b => compare a.1 b.1 = .lt)) (e : ∀ p, p ∈ l ↔ p ∈ l') : l = l' := by
  induction l generalizing l' with
  | nil =>
    cases l' with
    | nil => rfl
    | cons p l' => exact absurd ((e p).2 (by simp)) (by simp)
  | cons p l ih =>
    cases l' with
    | nil => exact absurd ((e p).1 (by simp)) (by simp)
    | cons q l' =>
      rw [List.pairwise_cons] at h h'
      have hpq : p = q := by
        rcases List.mem_cons.1 ((e p).1 (by simp)) with hp | hp
        · exact hp
        rcases List.mem_cons.1 ((e q).2 (by simp)) with hq | hq
        · exact hq.symm
        exact absurd (Std.TransCmp.lt_trans (h.1 q hq) (h'.1 p hp)) (by simp)
      subst hpq
      have hl : ∀ r ∈ l, r ≠ p := fun r hr e => by
        have := h.1 r hr
        simp [e] at this
      have hl' : ∀ r ∈ l', r ≠ p := fun r hr e => by
        have := h'.1 r hr
        simp [e] at this
      rw [ih h.2 h'.2 fun r => ⟨fun hr => ?_, fun hr => ?_⟩]
      · exact (List.mem_cons.1 ((e r).1 (.tail _ hr))).resolve_left (hl r hr)
      · exact (List.mem_cons.1 ((e r).2 (.tail _ hr))).resolve_left (hl' r hr)

/-- A map is determined by its values. -/
theorem ext_get? {m n : SortedMap κ β} (h : ∀ k, m.get? k = n.get? k) : m = n :=
  ext (eq_of_mem_iff m.sorted n.sorted fun p => by
    rw [← get?_eq_some_iff (k := p.1) (v := p.2), h, get?_eq_some_iff])

end SortedMap

end RuleCatalog
