import RuleCatalog.Proofs.Query.Blanks
import RuleCatalog.Proofs.Query.RoundTrip

/-! # Canonical texts of canonical texts

A canonical text is its own canonical text if its numbers keep their spelling, and a text without
comments that is no query is one as well. Main statement: `canonicalize_canonicalize`. -/
namespace RuleCatalog.Query
open Text

variable {q : String} {e : Expr} {ts : List Token}

/-! ## Numbers that keep their spelling -/

theorem Expr.numbers_respelled (e : Expr) : e.respelled.numbers = e.numbers.map respell := by
  induction e using Expr.induction with
  | number t => rfl
  | string v => rfl
  | selector n ms r mods => rfl
  | call f args ih =>
    rw [respelled_call, numbers_call, numbers_call, List.flatMap_map,
      List.map_flatMap]
    exact List.flatMap_congr ih
  | aggregate op param body g ihp ihb =>
    rw [respelled_aggregate, numbers_aggregate, numbers_aggregate, ihb, List.map_append]
    cases param with
    | none => rfl
    | some p => exact congrArg (· ++ _) (ihp p rfl)
  | binary op l r b m ihl ihr =>
    rw [respelled_binary, numbers_binary, numbers_binary, ihl, ihr, List.map_append]
  | unary s e ih => rw [respelled_unary, numbers_unary, numbers_unary, ih]
  | paren e ih => rw [respelled_paren, numbers_paren, numbers_paren, ih]
  | subquery e r s mods ih => rw [respelled_subquery, numbers_subquery, numbers_subquery, ih]

theorem Expr.write_respelled (h : ∀ t ∈ e.numbers, writeNumber (respell t) = writeNumber t) :
    e.respelled.write = e.write := by
  induction e using Expr.induction with
  | number t => exact h t (by simp)
  | string v => rfl
  | selector n ms r mods => rfl
  | call f args ih =>
    rw [numbers_call] at h
    have hargs : args.map (write ∘ respelled) = args.map write :=
      List.map_congr_left fun a ha => ih a ha fun t ht => h t (List.mem_flatMap.2 ⟨a, ha, ht⟩)
    rw [respelled_call, write, write, writeAll_eq_intercalate, writeAll_eq_intercalate,
      List.map_map, hargs]
  | aggregate op param body g ihp ihb =>
    rw [numbers_aggregate] at h
    have hparam : writeParam (param.map respelled) = writeParam param := by
      cases param with
      | none => rfl
      | some p =>
        rw [Option.map_some, writeParam, writeParam,
          ihp p rfl fun t ht => h t (List.mem_append_left _ ht)]
    rw [respelled_aggregate, write, write, hparam, ihb fun t ht => h t (List.mem_append_right _ ht)]
  | binary op l r b m ihl ihr =>
    rw [numbers_binary] at h
    rw [respelled_binary, write, write, ihl fun t ht => h t (List.mem_append_left _ ht),
      ihr fun t ht => h t (List.mem_append_right _ ht)]
  | unary s e ih =>
    rw [numbers_unary] at h
    rw [respelled_unary, write, write, ih h]
  | paren e ih =>
    rw [numbers_paren] at h
    rw [respelled_paren, write, write, ih h]
  | subquery e r s mods ih =>
    rw [numbers_subquery] at h
    rw [respelled_subquery, write, write, ih h]

theorem Expr.writeNumber_of_respelled_respelled (h : e.respelled.respelled = e.respelled) :
    ∀ t ∈ e.numbers, writeNumber (respell t) = writeNumber t := by
  have hnumbers := congrArg Expr.numbers h
  rw [numbers_respelled, numbers_respelled, List.map_map] at hnumbers
  intro t ht
  have hrespell : respell (respell t) = respell t := List.map_inj_left.1 hnumbers t ht
  exact String.ofList_injective hrespell

/-! ## Infinities -/

theorem count_plus_scanned (ts : List Token) : (ts.flatMap Token.scanned).count (.symbol .plus)
    = ts.count (.symbol .plus) + ts.count infinityToken := by
  induction ts with
  | nil => rfl
  | cons t ts ih =>
    rw [List.flatMap_cons, List.count_append, ih]
    by_cases ht : t = infinityToken
    · rw [ht, scanned_infinity]
      simp [infinityToken]
      omega
    · rw [scanned_of_ne ht, List.count_cons_of_ne (a := infinityToken) ht, List.count_cons,
        List.count_cons, List.count_nil]
      omega

/-- The trees of a canonical text and of the canonical text of this one have the same signs, and
each infinity would give the second one more. -/
theorem infinityToken_not_mem_of_idempotent {e' : Expr} (h : Expr.parse q = .ok e)
    (hplain : e.IsPlain) (h' : Expr.parse (canonicalize q) = .ok e')
    (hidem : canonicalize (canonicalize q) = canonicalize q) :
    infinityToken ∉ e.sort.tokens ∧ e'.sort.tokens = e.sort.tokens := by
  have hread := readable_sort (readable_of_parse h)
  have hlayout := layout_canonicalize h hplain
  have hscan := hlayout.scan_eq
  have hbraces : Braces LabelMatcher.IsPlain (e.sort.tokens.flatMap Token.scanned) := by
    have := hasBraces_of_readable hread (Expr.isPlain_sort.2 hplain) [] braces_nil
    rwa [List.append_nil] at this
  have hreads := readsExpr_of_parse h' hscan hbraces
  have hlayout' := layout_canonicalize h' hreads.matchers
  rw [hidem] at hlayout'
  have htokens : e'.sort.tokens = e.sort.tokens := hlayout'.unique hlayout
  refine ⟨?_, htokens⟩
  -- the plus signs of the second tree, counted as it is printed and as it was read
  have hsigns : e'.pluses = e.sort.tokens.count (.symbol .plus) := by
    rw [← htokens, count_plus_tokens (readable_sort hreads.shape), Expr.pluses_sort]
  obtain ⟨used, hused, hcount⟩ := hreads.takes
  rw [List.append_nil] at hused
  rw [← hused, count_plus_scanned, hsigns] at hcount
  have hzero : e.sort.tokens.count infinityToken = 0 := by omega
  exact List.count_eq_zero.1 hzero

/-! ## The canonical text of a canonical text -/

theorem canonicalize_of_layout {x : ParseError} (h : Expr.parse q = .error x)
    (hlayout : Layout false q.toList ts) : canonicalize q = q := by
  have := hlayout.normalizeBlanks_eq
  rwa [canonicalize_of_error h, String.ofList_toList] at *

/-- A canonical text without infinities is read as the tree it was printed from. -/
theorem eq_respelled_of_parse_canonicalize {e' : Expr} (h : Expr.parse q = .ok e)
    (hplain : e.IsPlain) (hfinite : infinityToken ∉ e.sort.tokens)
    (h' : Expr.parse (canonicalize q) = .ok e') : e' = e.sort.respelled := by
  have hread := readable_sort (readable_of_parse h)
  have hscan := (layout_canonicalize h hplain).scan_eq
  rw [flatMap_scanned hfinite] at hscan
  obtain ⟨ts, hts, -, -, hexpr⟩ := parse_eq_ok_iff.1 h'
  rw [hscan, Except.ok.injEq] at hts
  rw [← hts, exprAt_tokens hread, Except.ok.injEq, Prod.mk.injEq] at hexpr
  exact hexpr.1.symm

theorem canonicalize_canonicalize_of_ok (h : Expr.parse q = .ok e) (hplain : e.IsPlain) :
    canonicalize (canonicalize q) = canonicalize q
      ↔ (∀ t ∈ e.numbers, IsSettled t) ∨ ∃ x, Expr.parse (canonicalize q) = .error x := by
  have hread := readable_sort (readable_of_parse h)
  have hlayout := layout_canonicalize h hplain
  have hsort : e.sort.respelled.sort = e.sort.respelled := by
    rw [Expr.sort_respelled, Expr.sort_sort]
  cases hparse : Expr.parse (canonicalize q) with
  | error x => exact iff_of_true (canonicalize_of_layout hparse hlayout) (.inr ⟨x, rfl⟩)
  | ok e' =>
    simp only [reduceCtorEq, exists_false, or_false]
    constructor
    · intro hidem
      obtain ⟨hfinite, htokens⟩ := infinityToken_not_mem_of_idempotent h hplain hparse hidem
      obtain rfl := eq_respelled_of_parse_canonicalize h hplain hfinite hparse
      rw [hsort] at htokens
      have htwice := exprAt_tokens (readable_of_parse hparse)
      rw [htokens, exprAt_tokens hread, Except.ok.injEq, Prod.mk.injEq] at htwice
      intro t ht
      rw [← Expr.numbers_sort] at ht
      have hinf : lower t ≠ "inf" := fun hinf =>
        hfinite ((infinityToken_mem_tokens_iff hread).2 ⟨t, ht, hinf⟩)
      exact (writeNumber_respell_iff t hinf).1
        (Expr.writeNumber_of_respelled_respelled htwice.1.symm t ht)
    · intro hsettled
      rw [← Expr.numbers_sort] at hsettled
      have hfinite := infinityToken_not_mem hread fun t ht => (hsettled t ht).finite
      obtain rfl := eq_respelled_of_parse_canonicalize h hplain hfinite hparse
      have hwrite : e.sort.respelled.write = e.sort.write := Expr.write_respelled fun t ht =>
        (writeNumber_respell_iff t (hsettled t ht).finite).2 (hsettled t ht)
      rw [canonicalize_of_ok hparse, hsort, hwrite, ← canonicalize_of_ok h]

/-- The text with even blanks of a text that is no query is no query, if comments do not end with
its lines. -/
theorem exists_parse_normalizeBlanks_eq_error {x : ParseError} (h : Expr.parse q = .error x)
    (hcomment : ¬ HasComment q) : ∃ y, Expr.parse (normalizeBlanks q) = .error y := by
  cases hparse : Expr.parse (normalizeBlanks q) with
  | error y => exact ⟨y, rfl⟩
  | ok e =>
    obtain ⟨ts, hscan, hts⟩ := parse_eq_ok_iff.1 hparse
    have hok := parse_eq_ok_iff.2 ⟨ts, scan_of_normalizeBlanks hcomment hscan, hts⟩
    rw [h] at hok
    cases hok

/-- A canonical text is its own canonical text: of a query, if the names in its matchers are plain,
exactly where printing its numbers once more keeps them or the printed text is refused; of any
other text, if it has no comments. -/
theorem canonicalize_canonicalize (q : String) :
    (∀ e, Expr.parse q = .ok e → (∀ m ∈ e.matchers, scan m.name.toList = .ok [.ident m.name]) →
      (canonicalize (canonicalize q) = canonicalize q
        ↔ (∀ t ∈ e.numbers, IsSettled t) ∨ ∃ x, Expr.parse (canonicalize q) = .error x))
    ∧ ∀ x, Expr.parse q = .error x → ¬ HasComment q →
      canonicalize (canonicalize q) = canonicalize q := by
  constructor
  · intro e h hnames
    exact canonicalize_canonicalize_of_ok h fun m hm => isPlain_of_scan (hnames m hm)
  · intro x h hcomment
    obtain ⟨y, hy⟩ := exists_parse_normalizeBlanks_eq_error h hcomment
    rw [canonicalize_of_error h, canonicalize_of_error hy, normalizeBlanks_normalizeBlanks]

/-- The statement at a comparison, and at two names that are no query. -/
theorem canonicalize_canonicalize_comparison :
    canonicalize (canonicalize "up>1e1") = canonicalize "up>1e1"
      ∧ canonicalize (canonicalize "up\t up") = canonicalize "up\t up" := by
  have hparse : Expr.parse "up>1e1" = .ok (.binary .greater
      (.selector (some "up") [] none .empty) (.number "1e1") false none) :=
    parse_eq_ok_iff.2 ⟨[.ident "up", .symbol .greater, .number "1e1"], by decide +kernel, by simp,
      by decide, by rfl⟩
  have hsettled : IsSettled "1e1" := by
    refine ⟨by decide, fun n hn => ?_⟩
    have hnone : hexNumber? (lower "1e1").toList = none := by decide
    rw [hnone] at hn
    cases hn
  have hnumbers := ((canonicalize_canonicalize "up>1e1").1 _ hparse (by simp)).2
  have herror : Expr.parse "up\t up" = .error (.trailingToken (.ident "up")) := by
    have hscan : scan "up\t up".toList = .ok [.ident "up", .ident "up"] := by decide +kernel
    rw [Expr.parse, hscan]
    rfl
  exact ⟨hnumbers (.inl (by simpa using hsettled)),
    (canonicalize_canonicalize "up\t up").2 _ herror (by decide +kernel)⟩

/-- What has no canonical text that stays: an infinity, a number beyond the doubles' digits, a name
that needs its quotes, and a comment in a text that is no query. -/
theorem canonicalize_canonicalize_ne :
    canonicalize (canonicalize "+Inf") ≠ canonicalize "+Inf"
      ∧ canonicalize (canonicalize "0xFFFFFFFFFFFFFFFF") ≠ canonicalize "0xFFFFFFFFFFFFFFFF"
      ∧ canonicalize (canonicalize "\x7b\"a  b\"=\"x\"\x7d") ≠ canonicalize "\x7b\"a  b\"=\"x\"\x7d"
      ∧ canonicalize (canonicalize "up #\n$") ≠ canonicalize "up #\n$" := by
  decide +kernel

end RuleCatalog.Query
