import Mathlib.Data.String.Basic
import RuleCatalog.Proofs.Classification.Spelling
import RuleCatalog.Proofs.Service.Classification

/-! # Listings and single entries

A listing goes by what keys are read as, a request for one entry by the key as it is written. So a
padded key, which only others can have written, is listed and not found, and it takes the place
of the entry under the key itself. Main statement: `ClassificationRequest.list_agrees_iff`. -/
namespace RuleCatalog

/-! ## The last one of a list -/

/-- The last member with a value has this value, and no member after it has one. -/
theorem findSome?_reverse_eq_some_iff {α β : Type} {r : α → α → Prop} (hr : ∀ a b, r a b → ¬r b a)
    {l : List α} (hl : l.Pairwise r) {f : α → Option β} {v : β} :
    l.reverse.findSome? f = some v ↔ ∃ a ∈ l, f a = some v ∧ ∀ b ∈ l, r a b → f b = none := by
  induction l using List.reverseRecOn with
  | nil => simp
  | append_singleton l a ih =>
    obtain ⟨hl, -, hlast⟩ := List.pairwise_append.1 hl
    rw [List.reverse_append, List.reverse_singleton, List.singleton_append, List.findSome?_cons]
    cases ha : f a with
    | none =>
      dsimp only
      rw [ih hl]
      constructor
      · rintro ⟨b, hb, hv, hnone⟩
        refine ⟨b, List.mem_append_left _ hb, hv, fun c hc hbc => ?_⟩
        rcases List.mem_append.1 hc with hc | hc
        · exact hnone c hc hbc
        · rwa [List.mem_singleton.1 hc]
      · rintro ⟨b, hb, hv, hnone⟩
        rcases List.mem_append.1 hb with hb | hb
        · exact ⟨b, hb, hv, fun c hc => hnone c (List.mem_append_left _ hc)⟩
        · rw [List.mem_singleton.1 hb, ha] at hv
          cases hv
    | some w =>
      dsimp only
      constructor
      · rintro hw
        refine ⟨a, by simp, ha.trans hw, fun b hb hab => ?_⟩
        rcases List.mem_append.1 hb with hb | hb
        · exact absurd hab (hr b a (hlast b hb a List.mem_cons_self))
        · rw [List.mem_singleton.1 hb] at hab
          exact absurd hab (hr a a hab)
      · rintro ⟨b, hb, hv, hnone⟩
        rcases List.mem_append.1 hb with hb | hb
        · have hnone := hnone a (by simp) (hlast b hb a List.mem_cons_self)
          rw [ha] at hnone
          cases hnone
        · rwa [List.mem_singleton.1 hb, ha] at hv

theorem SortedMap.lookup_eq_findSome? {κ β : Type} [Ord κ] (k : κ) (l : List (κ × β)) :
    lookup k l = l.findSome? fun p => if compare k p.1 = .eq then some p.2 else none := by
  induction l with
  | nil => rfl
  | cons p l ih =>
    rw [lookup, ih, List.findSome?_cons]
    split <;> rfl

theorem findSome?_filterMap {α β γ : Type} (f : α → Option β) (g : β → Option γ) (l : List α) :
    (l.filterMap f).findSome? g = l.findSome? fun a => (f a).bind g := by
  induction l with
  | nil => rfl
  | cons a l ih =>
    rw [List.filterMap_cons, List.findSome?_cons]
    cases f a with
    | none => exact ih
    | some b =>
      rw [List.findSome?_cons, ih]
      rfl

/-! ## The order of spellings -/

theorem lt_append_cons (l : List Char) (c : Char) (cs : List Char) : l < l ++ c :: cs := by
  have h : l ++ [] < l ++ c :: cs := List.append_left_lt (List.nil_lt_cons c cs)
  rwa [List.append_nil] at h

namespace Identity

theorem compare_spelling_of_lt (id : Identity) {j k : Nat} (h : j < k) :
    compare (id.spelling j) (id.spelling k) = .lt := by
  obtain ⟨n, hn⟩ := Nat.exists_eq_succ_of_ne_zero (Nat.sub_ne_zero_of_lt h)
  have hk : List.replicate k '=' = List.replicate j '=' ++ '=' :: List.replicate n '=' := by
    rw [← List.replicate_succ, List.replicate_append_replicate]
    congr 1
    omega
  rw [compare_lt_iff_lt, String.lt_iff_toList_lt, spelling, spelling, String.toList_append,
    String.toList_append, String.toList_ofList, String.toList_ofList, hk, ← List.append_assoc]
  exact lt_append_cons _ _ _

theorem compare_spelling_iff (id : Identity) (j k : Nat) :
    compare (id.spelling j) (id.spelling k) = .lt ↔ j < k := by
  refine ⟨fun h => ?_, id.compare_spelling_of_lt⟩
  rw [compare_lt_iff_lt] at h
  rcases Nat.lt_trichotomy j k with hlt | rfl | hgt
  · exact hlt
  · exact absurd h (lt_irrefl _)
  · exact absurd h (lt_asymm (compare_lt_iff_lt.1 (id.compare_spelling_of_lt hgt)))

end Identity

namespace Container

/-- The entry under the longest of the padded keys of an identity that has one. -/
def paddedEntry? (container : Container) (id : Identity) : Option Classification :=
  (List.range' 1 id.room).reverse.findSome? fun k => container.classification? (id.spelling k)

theorem mem_keys_of_classification? {container : Container} {key : String} {e : Classification}
    (h : container.classification? key = some e) : key ∈ container.data.keys := by
  rw [SortedMap.mem_keys_iff]
  cases hdata : container.data.get? key with
  | some text => exact ⟨text, rfl⟩
  | none =>
    rw [classification?, hdata] at h
    cases h

/-- The entry under a key, if the key is read as the identity. -/
def entryAs? (container : Container) (id : Identity) (key : String) : Option Classification :=
  match Identity.decodeKey key with
  | .ok id' => if compare id id' = .eq then container.classification? key else none
  | .error _ => none

theorem entryAs?_eq_some_iff {container : Container} {id : Identity} {key : String}
    {e : Classification} :
    container.entryAs? id key = some e
      ↔ ∃ k ≤ id.room, key = id.spelling k ∧ container.classification? key = some e := by
  have hread : container.entryAs? id key = some e
      ↔ Identity.decodeKey key = .ok id ∧ container.classification? key = some e := by
    unfold entryAs?
    cases Identity.decodeKey key with
    | error _ => simp
    | ok id' =>
      by_cases hid : compare id id' = .eq
      · obtain rfl := Std.LawfulEqOrd.eq_of_compare hid
        simp
      · have hne : id' ≠ id := by
          rintro rfl
          exact hid Std.ReflCmp.compare_self
        simp [hid, hne]
  rw [hread, Identity.decodeKey_eq_ok_iff]
  simp only [← exists_and_right, and_assoc]

theorem get?_entries_eq_findSome? (container : Container) (id : Identity) :
    container.entries.get? id = container.data.keys.reverse.findSome? (container.entryAs? id) := by
  rw [entries, SortedMap.get?_ofList, SortedMap.lookup_eq_findSome?, ← List.filterMap_reverse,
    findSome?_filterMap]
  congr 1
  funext key
  unfold entryAs?
  cases Identity.decodeKey key <;> cases container.classification? key <;> simp

/-- An identity is listed with the entry of its last spelling that has one. -/
theorem get?_entries_eq_some_iff {container : Container} {id : Identity} {e : Classification} :
    container.entries.get? id = some e
      ↔ ∃ k ≤ id.room, container.classification? (id.spelling k) = some e
        ∧ ∀ j ≤ id.room, k < j → container.classification? (id.spelling j) = none := by
  have hkeys : container.data.keys.Pairwise (fun a b => compare a b = .lt) :=
    List.pairwise_map.2 container.data.sorted
  have hasymm : ∀ a b : String, compare a b = .lt → ¬compare b a = .lt := fun a b hab hba =>
    lt_asymm (compare_lt_iff_lt.1 hab) (compare_lt_iff_lt.1 hba)
  rw [get?_entries_eq_findSome?, findSome?_reverse_eq_some_iff hasymm hkeys]
  constructor
  · rintro ⟨key, -, hkey, hlast⟩
    obtain ⟨k, hk, rfl, he⟩ := entryAs?_eq_some_iff.1 hkey
    refine ⟨k, hk, he, fun j hj hkj => Option.eq_none_iff_forall_ne_some.2 fun e' he' => ?_⟩
    have hnone := hlast _ (mem_keys_of_classification? he') (id.compare_spelling_of_lt hkj)
    rw [entryAs?_eq_some_iff.2 ⟨j, hj, rfl, he'⟩] at hnone
    cases hnone
  · rintro ⟨k, hk, he, hlast⟩
    refine ⟨_, mem_keys_of_classification? he, entryAs?_eq_some_iff.2 ⟨k, hk, rfl, he⟩,
      fun key _ hlt => Option.eq_none_iff_forall_ne_some.2 fun e' he' => ?_⟩
    obtain ⟨j, hj, rfl, he'⟩ := entryAs?_eq_some_iff.1 he'
    rw [hlast j hj ((id.compare_spelling_iff k j).1 hlt)] at he'
    cases he'

theorem get?_entries_eq (container : Container) (id : Identity) :
    container.entries.get? id
      = (container.paddedEntry? id).or (container.classification? id.encodeKey) := by
  have hlast : container.entries.get? id = (List.range (id.room + 1)).reverse.findSome?
      fun k => container.classification? (id.spelling k) := by
    refine Option.ext fun e => ?_
    rw [get?_entries_eq_some_iff, findSome?_reverse_eq_some_iff (fun _ _ => Nat.lt_asymm)
      List.pairwise_lt_range]
    simp only [List.mem_range, Nat.lt_succ_iff]
  have hrange : List.range (id.room + 1) = 0 :: List.range' 1 id.room := by
    rw [List.range_eq_range', List.range'_succ]
  rw [hlast, hrange, List.reverse_cons, List.findSome?_append, List.findSome?_singleton,
    id.spelling_zero]
  rfl

theorem get?_entries_eq_iff (container : Container) (id : Identity) :
    container.entries.get? id = container.classification? id.encodeKey
      ↔ ∀ e, container.paddedEntry? id = some e →
        container.classification? id.encodeKey = some e := by
  rw [get?_entries_eq]
  cases container.paddedEntry? id with
  | none => simp
  | some e => simp [eq_comm]

end Container

namespace ClassificationRequest

/-- The listing of a namespace agrees with the request for an entry exactly where no padded key of
the identity has another entry. -/
theorem list_agrees_iff (c : Config) (s : Store Container) (space : String) (id : Identity) :
    ∃ entries entry, (list c space).alone s = (.ok entries, s.countRead)
      ∧ (get c space id).alone s = (.ok entry, s.countRead)
      ∧ (entries.get? id = entry ↔ ∀ container e, s.get? (key c space) = some container →
        container.paddedEntry? id = some e → entry = some e) := by
  refine ⟨((s.get? (key c space)).map (·.entries)).getD ∅,
    (s.get? (key c space)).bind (·.classification? id.encodeKey), rfl, rfl, ?_⟩
  cases s.get? (key c space) with
  | none => simp
  | some container =>
    refine (container.get?_entries_eq_iff id).trans ⟨?_, fun h e he => h container e rfl he⟩
    rintro h _ e ⟨⟩ he
    exact h e he

/-- A container with an entry under a padded key. -/
def padded : Container :=
  ⟨.fresh (key .default "team"), .ofList [("QQ==", "\x7b\"component\":\"team-a\"\x7d")]⟩

/-- An entry under a padded key is listed, and it is not found. -/
theorem list_ne_get_padded :
    ((get .default "team" ⟨"A"⟩).alone (Store.empty.upsert padded).store).1 = .ok none
    ∧ ∃ entries, ((list .default "team").alone (Store.empty.upsert padded).store).1 = .ok entries
      ∧ entries.get? ⟨"A"⟩ = some ⟨some "team-a", none, none, none⟩ := by
  refine ⟨by decide +kernel, _, rfl, by decide +kernel⟩

end ClassificationRequest

end RuleCatalog
