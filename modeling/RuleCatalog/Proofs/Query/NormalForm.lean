import Mathlib.Data.List.Sort
import RuleCatalog.Proofs.Query.Sorted

/-! # Sorting as a normal form

Two trees are alike if they differ in nothing but the order of the matchers in selectors and the
order and repetition of labels. Sorting takes alike trees, and no others, to one tree: a list of
labels is sorted to the one list of its labels, each once, and a list of matchers to the one list
of its matchers in order. Main statement: `Expr.sort_eq_sort_iff_alike`. -/
namespace RuleCatalog.Query

/-! ## Lists of labels and matchers -/

section
variable {ls ls' : List String} {ms ms' : List LabelMatcher}

/-- Whether two lists hold the same labels, in any order and any number of times. -/
def SameLabels (ls ls' : List String) : Prop := ∀ l, l ∈ ls ↔ l ∈ ls'

theorem eq_of_isLE {α : Type} {cmp : α → α → Ordering} [Std.OrientedCmp cmp] [Std.LawfulEqCmp cmp]
    {a b : α} (h : (cmp a b).isLE = true) (h' : (cmp b a).isLE = true) : a = b :=
  Std.LawfulEqCmp.eq_of_compare (Std.OrientedCmp.isLE_antisymm h h')

/-- In an ordered list, labels are repeated only side by side. -/
theorem nodup_eraseReps (h : ls.Pairwise fun a b => (compare a b).isLE = true) :
    ls.eraseReps.Nodup := by
  cases ls with
  | nil => exact .nil
  | cons a ls =>
    induction ls generalizing a with
    | nil => exact List.nodup_singleton a
    | cons b ls ih =>
      have htail := (List.pairwise_cons.1 h).2
      rw [eraseReps_cons_cons]
      split
      · rename_i hab
        exact ih a (hab ▸ htail)
      · rename_i hab
        refine List.nodup_cons.2 ⟨fun ha => hab ?_, ih b htail⟩
        rcases List.mem_cons.1 (mem_eraseReps.1 ha) with rfl | ha
        · rfl
        · exact eq_of_isLE ((List.pairwise_cons.1 h).1 b List.mem_cons_self)
            ((List.pairwise_cons.1 htail).1 a ha)

theorem sortLabels_eq_sortLabels_iff : sortLabels ls = sortLabels ls' ↔ SameLabels ls ls' := by
  constructor
  · intro h l
    rw [← mem_sortLabels, h, mem_sortLabels]
  · intro h
    have hnodup (ls : List String) : (sortLabels ls).Nodup :=
      nodup_eraseReps (pairwise_mergeSort_labels ls)
    have hperm : (sortLabels ls).Perm (sortLabels ls') :=
      (List.perm_ext_iff_of_nodup (hnodup ls) (hnodup ls')).2 fun l => by
        rw [mem_sortLabels, mem_sortLabels, h]
    exact hperm.eq_of_pairwise (fun a b _ _ => eq_of_isLE) (pairwise_sortLabels ls)
      (pairwise_sortLabels ls')

theorem MatchOp.text_injective {a b : MatchOp} (h : a.text = b.text) : a = b := by
  cases a <;> cases b <;> first | rfl | exact absurd h (by decide)

theorem LabelMatcher.le_antisymm {a b : LabelMatcher} (h : a.le b = true) (h' : b.le a = true) :
    a = b := by
  rw [LabelMatcher.le_eq] at h h'
  have heq := Std.OrientedCmp.isLE_antisymm h h'
  obtain ⟨hname, hrest⟩ := compareLex_eq_eq.1 heq
  obtain ⟨hop, hvalue⟩ := compareLex_eq_eq.1 hrest
  obtain ⟨name, op, value⟩ := a
  obtain rfl : name = b.name := Std.LawfulEqCmp.eq_of_compare hname
  obtain rfl : op = b.op := MatchOp.text_injective (Std.LawfulEqCmp.eq_of_compare hop)
  obtain rfl : value = b.value := Std.LawfulEqCmp.eq_of_compare hvalue
  rfl

theorem sortMatchers_eq_sortMatchers_iff : sortMatchers ms = sortMatchers ms' ↔ ms.Perm ms' := by
  have hperm (ms : List LabelMatcher) : (sortMatchers ms).Perm ms := List.mergeSort_perm ms _
  constructor
  · intro h
    exact (hperm ms).symm.trans (h ▸ hperm ms')
  · intro h
    exact (((hperm ms).trans h).trans (hperm ms').symm).eq_of_pairwise
      (fun a b _ _ => LabelMatcher.le_antisymm) (pairwise_sortMatchers ms)
      (pairwise_sortMatchers ms')

end

/-! ## Parts that may be missing, and rows of parts -/

section
variable {α β : Type} {f : α → β} {R : α → α → Prop}

theorem map_eq_map_iff_rel {o o' : Option α} (h : ∀ a ∈ o, ∀ b, f a = f b ↔ R a b) :
    o.map f = o'.map f ↔ Option.Rel R o o' := by
  cases o with
  | none =>
    cases o' with
    | none => exact iff_of_true rfl .none
    | some b => exact iff_of_false nofun nofun
  | some a =>
    cases o' with
    | none => exact iff_of_false nofun nofun
    | some b =>
      rw [Option.map_some, Option.map_some, Option.some.injEq, h a rfl]
      exact ⟨.some, fun (.some hab) => hab⟩

theorem map_eq_map_iff_forall₂ {l l' : List α} (h : ∀ a ∈ l, ∀ b, f a = f b ↔ R a b) :
    l.map f = l'.map f ↔ List.Forall₂ R l l' := by
  induction l generalizing l' with
  | nil => cases l' <;> simp
  | cons a l ih =>
    cases l' with
    | nil => simp
    | cons b l' =>
      rw [List.map_cons, List.map_cons, List.cons.injEq, List.forall₂_cons, h a List.mem_cons_self,
        ih fun c hc => h c (List.mem_cons_of_mem a hc)]

end

/-! ## Trees -/

/-- Whether two groupings keep or drop the same labels. -/
structure Grouping.Alike (g g' : Grouping) : Prop where
  without : g.without = g'.without
  labels : SameLabels g.labels g'.labels

structure MatchClause.Alike (c c' : MatchClause) : Prop where
  on : c.on = c'.on
  labels : SameLabels c.labels c'.labels

structure VectorMatching.Alike (m m' : VectorMatching) : Prop where
  clause : Option.Rel MatchClause.Alike m.clause m'.clause
  group : Option.Rel (fun g g' => g.1 = g'.1 ∧ SameLabels g.2 g'.2) m.group m'.group

/-- Whether two trees are the same but for the order of matchers and the order and repetition of
labels. -/
inductive Expr.Alike : Expr → Expr → Prop
  | number (t : String) : Alike (.number t) (.number t)
  | string (v : String) : Alike (.string v) (.string v)
  | selector {n : Option String} {ms ms' : List LabelMatcher} {r : Option String}
      {mods : Modifiers} (hms : ms.Perm ms') : Alike (.selector n ms r mods) (.selector n ms' r mods)
  | call {f : String} {args args' : List Expr} (hargs : List.Forall₂ Alike args args') :
      Alike (.call f args) (.call f args')
  | aggregate {op : String} {param param' : Option Expr} {body body' : Expr}
      {g g' : Option Grouping} (hparam : Option.Rel Alike param param') (hbody : Alike body body')
      (hg : Option.Rel Grouping.Alike g g') :
      Alike (.aggregate op param body g) (.aggregate op param' body' g')
  | binary {op : BinaryOp} {l l' r r' : Expr} {b : Bool} {m m' : Option VectorMatching}
      (hl : Alike l l') (hr : Alike r r') (hm : Option.Rel VectorMatching.Alike m m') :
      Alike (.binary op l r b m) (.binary op l' r' b m')
  | unary {s : Sign} {e e' : Expr} (he : Alike e e') : Alike (.unary s e) (.unary s e')
  | paren {e e' : Expr} (he : Alike e e') : Alike (.paren e) (.paren e')
  | subquery {e e' : Expr} {r : String} {s : Option String} {mods : Modifiers} (he : Alike e e') :
      Alike (.subquery e r s mods) (.subquery e' r s mods)

theorem Grouping.sort_eq_sort_iff {g g' : Grouping} : g.sort = g'.sort ↔ g.Alike g' := by
  rw [Grouping.sort, Grouping.sort, Grouping.mk.injEq, sortLabels_eq_sortLabels_iff]
  exact ⟨fun h => ⟨h.1, h.2⟩, fun h => ⟨h.without, h.labels⟩⟩

theorem MatchClause.sort_eq_sort_iff {c c' : MatchClause} : c.sort = c'.sort ↔ c.Alike c' := by
  rw [MatchClause.sort, MatchClause.sort, MatchClause.mk.injEq, sortLabels_eq_sortLabels_iff]
  exact ⟨fun h => ⟨h.1, h.2⟩, fun h => ⟨h.on, h.labels⟩⟩

theorem VectorMatching.sort_eq_sort_iff {m m' : VectorMatching} :
    m.sort = m'.sort ↔ m.Alike m' := by
  have hclause : m.clause.map MatchClause.sort = m'.clause.map MatchClause.sort
      ↔ Option.Rel MatchClause.Alike m.clause m'.clause :=
    map_eq_map_iff_rel fun _ _ _ => MatchClause.sort_eq_sort_iff
  have hgroup : (m.group.map fun g => (g.1, sortLabels g.2))
      = (m'.group.map fun g => (g.1, sortLabels g.2))
      ↔ Option.Rel (fun g g' => g.1 = g'.1 ∧ SameLabels g.2 g'.2) m.group m'.group :=
    map_eq_map_iff_rel fun g _ g' => by rw [Prod.mk.injEq, sortLabels_eq_sortLabels_iff]
  rw [VectorMatching.sort, VectorMatching.sort, VectorMatching.mk.injEq, hclause, hgroup]
  exact ⟨fun h => ⟨h.1, h.2⟩, fun h => ⟨h.clause, h.group⟩⟩

/-- Sorting makes two trees equal exactly when they are alike. -/
theorem Expr.sort_eq_sort_iff_alike (e e' : Expr) : e.sort = e'.sort ↔ e.Alike e' := by
  -- on the first tree, whose root decides what the second one can be
  induction e using Expr.induction generalizing e' with
  | number t =>
    cases e' with
    | number t' =>
      rw [sort_number, sort_number, number.injEq]
      exact ⟨fun h => h ▸ .number t, fun (.number _) => rfl⟩
    | _ => exact iff_of_false nofun nofun
  | string v =>
    cases e' with
    | string v' =>
      rw [sort_string, sort_string, string.injEq]
      exact ⟨fun h => h ▸ .string v, fun (.string _) => rfl⟩
    | _ => exact iff_of_false nofun nofun
  | selector n ms r mods =>
    cases e' with
    | selector n' ms' r' mods' =>
      rw [sort_selector, sort_selector, selector.injEq, sortMatchers_eq_sortMatchers_iff]
      exact ⟨fun ⟨hn, hms, hr, hmods⟩ => hn ▸ hr ▸ hmods ▸ .selector hms,
        fun (.selector hms) => ⟨rfl, hms, rfl, rfl⟩⟩
    | _ => exact iff_of_false nofun nofun
  | call f args ih =>
    cases e' with
    | call f' args' =>
      rw [sort_call, sort_call, call.injEq, map_eq_map_iff_forall₂ ih]
      exact ⟨fun ⟨hf, hargs⟩ => hf ▸ .call hargs, fun (.call hargs) => ⟨rfl, hargs⟩⟩
    | _ => exact iff_of_false nofun nofun
  | aggregate op param body g ihp ihb =>
    cases e' with
    | aggregate op' param' body' g' =>
      have hg : g.map Grouping.sort = g'.map Grouping.sort ↔ Option.Rel Grouping.Alike g g' :=
        map_eq_map_iff_rel fun _ _ _ => Grouping.sort_eq_sort_iff
      rw [sort_aggregate, sort_aggregate, aggregate.injEq, map_eq_map_iff_rel ihp, ihb, hg]
      exact ⟨fun ⟨hop, hparam, hbody, hg⟩ => hop ▸ .aggregate hparam hbody hg,
        fun (.aggregate hparam hbody hg) => ⟨rfl, hparam, hbody, hg⟩⟩
    | _ => exact iff_of_false nofun nofun
  | binary op l r b m ihl ihr =>
    cases e' with
    | binary op' l' r' b' m' =>
      have hm : m.map VectorMatching.sort = m'.map VectorMatching.sort
          ↔ Option.Rel VectorMatching.Alike m m' :=
        map_eq_map_iff_rel fun _ _ _ => VectorMatching.sort_eq_sort_iff
      rw [sort_binary, sort_binary, binary.injEq, ihl, ihr, hm]
      exact ⟨fun ⟨hop, hl, hr, hb, hm⟩ => hop ▸ hb ▸ .binary hl hr hm,
        fun (.binary hl hr hm) => ⟨rfl, hl, hr, rfl, hm⟩⟩
    | _ => exact iff_of_false nofun nofun
  | unary s e ih =>
    cases e' with
    | unary s' e' =>
      rw [sort_unary, sort_unary, unary.injEq, ih]
      exact ⟨fun ⟨hs, he⟩ => hs ▸ .unary he, fun (.unary he) => ⟨rfl, he⟩⟩
    | _ => exact iff_of_false nofun nofun
  | paren e ih =>
    cases e' with
    | paren e' =>
      rw [sort_paren, sort_paren, paren.injEq, ih]
      exact ⟨.paren, fun (.paren he) => he⟩
    | _ => exact iff_of_false nofun nofun
  | subquery e r s mods ih =>
    cases e' with
    | subquery e' r' s' mods' =>
      rw [sort_subquery, sort_subquery, subquery.injEq, ih]
      exact ⟨fun ⟨he, hr, hs, hmods⟩ => hr ▸ hs ▸ hmods ▸ .subquery he,
        fun (.subquery he) => ⟨he, rfl, rfl, rfl⟩⟩
    | _ => exact iff_of_false nofun nofun

end RuleCatalog.Query
