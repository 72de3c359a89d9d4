import RuleCatalog.Proofs.Query.Tokens

/-! # Sorted trees

Sorting the lists in a tree a second time changes nothing, and it changes neither how the tree
could be read nor its numbers. Main statements: `Expr.sort_sort` and `readable_sort`. -/
namespace RuleCatalog.Query

/-! ## Each label once -/

section
variable {α : Type}

theorem loop_eq_append (r : α → α → Bool) (a : α) (l acc : List α) :
    List.eraseRepsBy.loop r a l acc = acc.reverse ++ List.eraseRepsBy.loop r a l [] := by
  induction l generalizing a acc with
  | nil => simp [List.eraseRepsBy.loop]
  | cons b l ih =>
    rw [List.eraseRepsBy.loop, List.eraseRepsBy.loop]
    cases r a b with
    | true => exact ih a acc
    | false =>
      dsimp only
      rw [ih b (a :: acc), ih b [a], List.reverse_cons, List.append_assoc]
      rfl

variable [DecidableEq α]

theorem eraseReps_cons_cons (a b : α) (l : List α) : (a :: b :: l).eraseReps
    = if a = b then (a :: l).eraseReps else a :: (b :: l).eraseReps := by
  show List.eraseRepsBy.loop _ a (b :: l) [] = if a = b then List.eraseRepsBy.loop _ a l []
    else a :: List.eraseRepsBy.loop _ b l []
  rw [List.eraseRepsBy.loop]
  by_cases h : a = b
  · rw [if_pos h, beq_iff_eq.2 h]
  · rw [if_neg h, beq_eq_false_iff_ne.2 h]
    exact loop_eq_append _ b l [a]

theorem exists_eraseReps_cons (a : α) (l : List α) : ∃ t, (a :: l).eraseReps = a :: t := by
  induction l with
  | nil => exact ⟨[], rfl⟩
  | cons b l ih =>
    rw [eraseReps_cons_cons]
    split
    · exact ih
    · exact ⟨_, rfl⟩

theorem mem_eraseReps {b : α} {l : List α} : b ∈ l.eraseReps ↔ b ∈ l := by
  cases l with
  | nil => rfl
  | cons a l =>
    induction l generalizing a with
    | nil => rfl
    | cons c l ih =>
      rw [eraseReps_cons_cons]
      split
      · rename_i h
        rw [ih, ← h]
        simp
      · rw [List.mem_cons, ih, ← List.mem_cons]

theorem eraseReps_sublist (l : List α) : l.eraseReps.Sublist l := by
  cases l with
  | nil => exact .slnil
  | cons a l =>
    induction l generalizing a with
    | nil => exact List.Sublist.refl _
    | cons b l ih =>
      rw [eraseReps_cons_cons]
      split
      · exact (ih a).trans ((List.sublist_cons_self b l).cons_cons a)
      · exact (ih b).cons_cons a

theorem eraseReps_eraseReps (l : List α) : l.eraseReps.eraseReps = l.eraseReps := by
  cases l with
  | nil => rfl
  | cons a l =>
    induction l generalizing a with
    | nil => rfl
    | cons b l ih =>
      rw [eraseReps_cons_cons]
      split
      · exact ih a
      · rename_i hne
        obtain ⟨t, ht⟩ := exists_eraseReps_cons b l
        have hrest := ih b
        rw [ht] at hrest ⊢
        rw [eraseReps_cons_cons, if_neg hne, hrest]

end

theorem isLE_or_isLE {α : Type} {cmp : α → α → Ordering} [Std.OrientedCmp cmp] (a b : α) :
    ((cmp a b).isLE || (cmp b a).isLE) = true := by
  have hswap : cmp b a = (cmp a b).swap := Std.OrientedCmp.eq_swap
  rw [hswap]
  cases cmp a b <;> rfl

theorem mem_sortLabels {l : String} {ls : List String} : l ∈ sortLabels ls ↔ l ∈ ls := by
  rw [sortLabels, mem_eraseReps, List.mem_mergeSort]

theorem pairwise_mergeSort_labels (ls : List String) : (ls.mergeSort fun a b =>
    (compare a b).isLE).Pairwise fun a b => (compare a b).isLE = true :=
  List.pairwise_mergeSort (fun _ _ _ => Std.TransCmp.isLE_trans) isLE_or_isLE ls

theorem pairwise_sortLabels (ls : List String) :
    (sortLabels ls).Pairwise fun a b => (compare a b).isLE = true :=
  (pairwise_mergeSort_labels ls).sublist (eraseReps_sublist _)

theorem sortLabels_sortLabels (ls : List String) : sortLabels (sortLabels ls) = sortLabels ls := by
  have hsort : (sortLabels ls).mergeSort (fun a b => (compare a b).isLE) = sortLabels ls :=
    List.mergeSort_of_pairwise (pairwise_sortLabels ls)
  conv => lhs; rw [sortLabels, hsort]
  exact eraseReps_eraseReps _

/-- Matchers are compared by one part after the other. -/
theorem LabelMatcher.le_eq (a b : LabelMatcher) : a.le b = (compareLex (compareOn LabelMatcher.name)
    (compareLex (compareOn fun m => m.op.text) (compareOn LabelMatcher.value)) a b).isLE := rfl

theorem pairwise_sortMatchers (ms : List LabelMatcher) :
    (sortMatchers ms).Pairwise fun a b => a.le b = true := by
  refine List.pairwise_mergeSort ?_ ?_ ms
  · intro a b c
    rw [LabelMatcher.le_eq, LabelMatcher.le_eq, LabelMatcher.le_eq]
    exact Std.TransCmp.isLE_trans
  · intro a b
    rw [LabelMatcher.le_eq, LabelMatcher.le_eq]
    exact isLE_or_isLE a b

theorem sortMatchers_sortMatchers (ms : List LabelMatcher) :
    sortMatchers (sortMatchers ms) = sortMatchers ms :=
  List.mergeSort_of_pairwise (pairwise_sortMatchers ms)

theorem mem_sortMatchers {m : LabelMatcher} {ms : List LabelMatcher} : m ∈ sortMatchers ms ↔ m ∈ ms :=
  List.mem_mergeSort

theorem sortMatchers_eq_nil {ms : List LabelMatcher} : sortMatchers ms = [] ↔ ms = [] := by
  rw [← List.length_eq_zero_iff, sortMatchers, List.length_mergeSort, List.length_eq_zero_iff]

/-! ## Trees -/

theorem Grouping.sort_sort (g : Grouping) : g.sort.sort = g.sort := by
  rw [Grouping.sort, Grouping.sort, sortLabels_sortLabels]

theorem VectorMatching.sort_sort (m : VectorMatching) : m.sort.sort = m.sort := by
  obtain ⟨c, g⟩ := m
  cases c <;> cases g <;> simp [VectorMatching.sort, MatchClause.sort, sortLabels_sortLabels]

section
variable {t v f op d : String} {n s : Option String} {ms : List LabelMatcher} {mods : Modifiers}
  {args : List Expr} {param : Option Expr} {body e r : Expr} {g : Option Grouping}
  {bop : BinaryOp} {b : Bool} {m : Option VectorMatching} {sign : Sign}

@[simp] theorem Expr.sort_number : (number t).sort = number t := rfl
@[simp] theorem Expr.sort_string : (string v).sort = string v := rfl

@[simp] theorem Expr.sort_selector :
    (selector n ms s mods).sort = selector n (sortMatchers ms) s mods := rfl

@[simp] theorem Expr.sort_call : (call f args).sort = call f (args.map sort) :=
  congrArg (call f) (sortAll_eq_map args)

@[simp] theorem Expr.sort_aggregate : (aggregate op param body g).sort
    = aggregate op (param.map sort) body.sort (g.map Grouping.sort) :=
  congrArg (aggregate op · body.sort (g.map Grouping.sort)) (sortOption_eq_map param)

@[simp] theorem Expr.sort_binary : (binary bop e r b m).sort
    = binary bop e.sort r.sort b (m.map VectorMatching.sort) := rfl

@[simp] theorem Expr.sort_unary : (unary sign e).sort = unary sign e.sort := rfl
@[simp] theorem Expr.sort_paren : (paren e).sort = paren e.sort := rfl

@[simp] theorem Expr.sort_subquery :
    (subquery e d s mods).sort = subquery e.sort d s mods := rfl

end

variable {e : Expr}

theorem Expr.sort_sort (e : Expr) : e.sort.sort = e.sort := by
  induction e using Expr.induction with
  | number t => rfl
  | string v => rfl
  | selector n ms r mods => rw [sort_selector, sort_selector, sortMatchers_sortMatchers]
  | call f args ih =>
    rw [sort_call, sort_call, List.map_map]
    exact congrArg (call f) (List.map_congr_left ih)
  | aggregate op param body g ihp ihb =>
    rw [sort_aggregate, sort_aggregate, Option.map_map, Option.map_map, ihb]
    congr 1
    · exact Option.map_congr ihp
    · exact Option.map_congr fun g _ => g.sort_sort
  | binary op l r b m ihl ihr =>
    rw [sort_binary, sort_binary, ihl, ihr, Option.map_map]
    congr 1
    exact Option.map_congr fun m _ => m.sort_sort
  | unary s e ih => rw [sort_unary, sort_unary, ih]
  | paren e ih => rw [sort_paren, sort_paren, ih]
  | subquery e r s mods ih => rw [sort_subquery, sort_subquery, ih]

/-- Spelling the numbers anew and sorting do not meet. -/
theorem Expr.sort_respelled (e : Expr) : e.respelled.sort = e.sort.respelled := by
  induction e using Expr.induction with
  | number t => rfl
  | string v => rfl
  | selector n ms r mods => rfl
  | call f args ih =>
    rw [respelled_call, sort_call, sort_call, respelled_call, List.map_map, List.map_map]
    exact congrArg (call f) (List.map_congr_left ih)
  | aggregate op param body g ihp ihb =>
    rw [respelled_aggregate, sort_aggregate, sort_aggregate, respelled_aggregate, Option.map_map,
      Option.map_map, ihb]
    congr 1
    exact Option.map_congr ihp
  | binary op l r b m ihl ihr =>
    rw [respelled_binary, sort_binary, sort_binary, respelled_binary, ihl, ihr]
  | unary s e ih => rw [respelled_unary, sort_unary, sort_unary, respelled_unary, ih]
  | paren e ih => rw [respelled_paren, sort_paren, sort_paren, respelled_paren, ih]
  | subquery e r s mods ih =>
    rw [respelled_subquery, sort_subquery, sort_subquery, respelled_subquery, ih]

theorem Expr.parts_sort (e : Expr) : e.sort.parts = e.parts.map Expr.sort := by
  induction e using Expr.induction with
  | number t => rfl
  | string v => rfl
  | selector n ms r mods => rfl
  | call f args ih =>
    rw [sort_call, parts_call, parts_call, List.map_cons, sort_call, List.flatMap_map,
      List.map_flatMap, List.flatMap_def, List.flatMap_def, List.map_congr_left ih]
  | aggregate op param body g ihp ihb =>
    rw [sort_aggregate, parts_aggregate, parts_aggregate, List.map_append, List.map_cons,
      sort_aggregate, ihb]
    congr 2
    cases param with
    | none => rfl
    | some p => exact ihp p rfl
  | binary op l r b m ihl ihr =>
    rw [sort_binary, parts_binary, parts_binary, ihl, ihr, List.map_append, List.map_cons,
      sort_binary]
  | unary s e ih => rw [sort_unary, parts_unary, parts_unary, ih, List.map_cons, sort_unary]
  | paren e ih => rw [sort_paren, parts_paren, parts_paren, ih, List.map_cons, sort_paren]
  | subquery e r s mods ih =>
    rw [sort_subquery, parts_subquery, parts_subquery, ih, List.map_cons, sort_subquery]

theorem Expr.numbers_sort (e : Expr) : e.sort.numbers = e.numbers := by
  rw [Expr.numbers, Expr.numbers, Expr.parts_sort, List.filterMap_map]
  congr 1
  funext p
  cases p <;> rfl

theorem Expr.pluses_sort (e : Expr) : e.sort.pluses = e.pluses := by
  rw [Expr.pluses, Expr.pluses, Expr.parts_sort, List.countP_map]
  congr 1
  funext p
  cases p with
  | binary op l r b m => cases op <;> rfl
  | unary s e => cases s <;> rfl
  | _ => rfl

theorem Expr.mem_matchers_sort {m : LabelMatcher} : m ∈ e.sort.matchers ↔ m ∈ e.matchers := by
  rw [Expr.matchers, Expr.matchers, Expr.parts_sort, List.flatMap_map, List.mem_flatMap,
    List.mem_flatMap]
  refine exists_congr fun p => and_congr_right fun _ => ?_
  cases p with
  | selector n ms r mods => exact mem_sortMatchers
  | _ => rfl

theorem Expr.isPlain_sort : e.sort.IsPlain ↔ e.IsPlain :=
  forall_congr' fun _ => imp_congr_left Expr.mem_matchers_sort

theorem Expr.edge_sort (e : Expr) : e.sort.edge = e.edge := by
  induction e using Expr.induction with
  | binary op l r b m ihl ihr => exact congrArg (min op.rightBound) ihr
  | unary s e ih => exact congrArg (min BinaryOp.power.precedence) ih
  | _ => rfl

theorem Expr.word?_sort (e : Expr) : e.sort.word? = e.word? := by
  induction e using Expr.induction with
  | binary op l r b m ihl ihr => exact ihl
  | subquery e r s mods ih => exact ih
  | _ => rfl

/-! ## Sorted trees can be read -/

theorem areLabels_sortLabels {ls : List String} (h : AreLabels ls) : AreLabels (sortLabels ls) :=
  fun l hl => h l (mem_sortLabels.1 hl)

theorem isRead_sort {v : VectorMatching} (h : v.IsRead) : v.sort.IsRead := by
  obtain ⟨c, g⟩ := v
  refine ⟨?_, ?_, ?_⟩
  · simpa [VectorMatching.sort] using h.some
  · intro k hk
    obtain ⟨k', hk', rfl⟩ := Option.map_eq_some_iff.1 hk
    exact areLabels_sortLabels (h.clause k' hk')
  · intro k hk
    obtain ⟨k', hk', rfl⟩ := Option.map_eq_some_iff.1 hk
    exact areLabels_sortLabels (h.group k' hk')

theorem startsAfter_sort {b : Bool} {m : Option VectorMatching} (h : StartsAfter b m e) :
    StartsAfter b (m.map VectorMatching.sort) e.sort := by
  refine ⟨fun hb hnone => ?_, fun hnone => ?_, fun hgroup => ?_⟩ <;> rw [Expr.word?_sort]
  · exact h.bool hb (Option.map_eq_none_iff.1 hnone)
  · exact h.clause (Option.map_eq_none_iff.1 hnone)
  · refine h.group fun v hv => ?_
    subst hv
    exact Option.map_eq_none_iff.1 (hgroup _ rfl)

variable {S : Nat → Expr → Prop}

theorem operand_sort (hS : ∀ bound e, S bound e → S bound e.sort) (h : Operand S e) :
    Operand S e.sort := by
  induction h with
  | number ht => exact .number ht
  | string v => exact .string v
  | selector hn hms hr hmods =>
    exact .selector hn (fun hnone h => hms hnone (sortMatchers_eq_nil.1 h)) hr hmods
  | call hf hagg hargs =>
    rw [Expr.sort_call]
    refine .call hf hagg fun a ha => ?_
    obtain ⟨a', ha', rfl⟩ := List.mem_map.1 ha
    exact hS _ _ (hargs a' ha')
  | aggregate hop hparam hbody hg =>
    rw [Expr.sort_aggregate]
    refine .aggregate hop (fun p hp => ?_) (hS _ _ hbody) fun c hc => ?_
    · obtain ⟨p', hp', rfl⟩ := Option.map_eq_some_iff.1 hp
      exact hS _ _ (hparam p' hp')
    · obtain ⟨c', hc', rfl⟩ := Option.map_eq_some_iff.1 hc
      exact areLabels_sortLabels (hg c' hc')
  | paren he => exact .paren (hS _ _ he)
  | subquery he hr hs hmods ih => exact .subquery ih hr hs hmods

theorem spine_sort (hS : ∀ bound e, S bound e → S bound e.sort) {bound : Nat} (h : Spine S bound e) :
    Spine S bound e.sort := by
  induction h with
  | operand he => exact .operand (operand_sort hS he)
  | unary s he => exact .unary s (hS _ _ he)
  | @binary op l r b m hl hbound hedge hr hm hstart ih =>
    refine .binary ih hbound ?_ (hS _ _ hr) (fun v hv => ?_) (startsAfter_sort hstart)
    · rwa [Expr.edge_sort]
    · obtain ⟨v', hv', rfl⟩ := Option.map_eq_some_iff.1 hv
      exact isRead_sort (hm v' hv')

theorem readable_sort {levels bound : Nat} (h : Readable levels bound e) :
    Readable levels bound e.sort := by
  induction levels generalizing bound e with
  | zero => cases h
  | succ levels ih => exact spine_sort (fun _ _ he => ih he) h

end RuleCatalog.Query
