import RuleCatalog.Proofs.Query.Printed
import RuleCatalog.Proofs.Query.Sorted

/-! # Reading canonical queries

The canonical text of a query is read as its sorted tree, and no other tree has it, as long as
the names in matchers are printed as they are read. Main statements: `parse_canonicalize` and
`respelled_eq_of_canonicalize_eq`. -/
namespace RuleCatalog.Query
open Text

variable {q : String} {e : Expr} {ts : List Token}

/-! ## What was parsed -/

theorem readTokens_eq_ok_iff : readTokens ts = .ok e ↔
    ts ≠ [] ∧ ts.length ≤ maxTokens ∧ exprAt maxNesting 0 ts = .ok (e, []) := by
  unfold readTokens
  cases ts with
  | nil => simp [throw, throwThe, MonadExceptOf.throw, bind, Except.bind]
  | cons t ts =>
    by_cases hlength : (t :: ts).length > maxTokens
    · rw [if_pos hlength]
      simp only [List.isEmpty_cons, ne_eq, reduceCtorEq, not_false_eq_true, true_and]
      constructor
      · intro h
        cases h
      · intro h
        exact absurd h.1 (Nat.not_le.2 hlength)
    · rw [if_neg hlength, and_iff_right (List.cons_ne_nil t ts),
        and_iff_right (Nat.not_lt.1 hlength)]
      cases exprAt maxNesting 0 (t :: ts) with
      | error x => exact ⟨nofun, nofun⟩
      | ok r =>
        obtain ⟨e', rest⟩ := r
        cases rest with
        | nil => simp [bind, Except.bind, pure, Except.pure]
        | cons t' ts' => simp [bind, Except.bind, throw, throwThe, MonadExceptOf.throw]

theorem parse_eq_ok_iff : Expr.parse q = .ok e ↔ ∃ ts, scan q.toList = .ok ts
    ∧ ts ≠ [] ∧ ts.length ≤ maxTokens ∧ exprAt maxNesting 0 ts = .ok (e, []) := by
  rw [Expr.parse, bind_eq_ok]
  exact exists_congr fun ts => and_congr_right fun _ => readTokens_eq_ok_iff

theorem readsExpr_of_parse {M : LabelMatcher → Prop} (h : Expr.parse q = .ok e)
    (hscan : scan q.toList = .ok ts) (hM : Braces M ts) :
    ReadsExpr (Readable maxNesting) M 0 ts e [] := by
  obtain ⟨ts', hscan', -, -, hread⟩ := parse_eq_ok_iff.1 h
  obtain rfl : ts = ts' := by rwa [hscan, Except.ok.injEq] at hscan'
  exact exprAt_eq_ok M maxNesting _ _ _ _ ⟨isLexeme_of_scan hscan, hM⟩ hread

theorem readable_of_parse (h : Expr.parse q = .ok e) : Readable maxNesting 0 e := by
  obtain ⟨ts, hscan, -⟩ := parse_eq_ok_iff.1 h
  have hM : Braces (fun _ => True) ts := fun _ _ _ _ _ _ _ _ => trivial
  exact (readsExpr_of_parse h hscan hM).shape

theorem isPlain_of_scan {m : LabelMatcher} (h : scan m.name.toList = .ok [.ident m.name]) :
    m.IsPlain :=
  isLexeme_of_scan h _ List.mem_cons_self

/-! ## The canonical text -/

theorem canonicalize_of_ok (h : Expr.parse q = .ok e) : canonicalize q = .ofList e.sort.write := by
  rw [canonicalize, h]
  rfl

theorem canonicalize_of_error {x : ParseError} (h : Expr.parse q = .error x) :
    canonicalize q = normalizeBlanks q := by
  rw [canonicalize, h]

/-- A canonical text lays out the tokens of the sorted tree. -/
theorem layout_canonicalize (h : Expr.parse q = .ok e) (hplain : e.IsPlain) :
    Layout false (canonicalize q).toList e.sort.tokens := by
  have hclose : Closes [] [] := ⟨ends_nil, by simp⟩
  have hlayout := laysOut_of_readable (readable_sort (readable_of_parse h))
    (Expr.isPlain_sort.2 hplain) true [] [] .nil hclose
  rwa [List.append_nil, List.append_nil, ← String.toList_ofList (l := e.sort.write),
    ← canonicalize_of_ok h] at hlayout

theorem exprAt_tokens {levels bound : Nat} (h : Readable levels bound e) :
    exprAt levels bound e.tokens = .ok (e.respelled, []) := by
  have hread := exprAt_tokens_append levels bound e [] h (endsSuffixes_nil.endsExpr rfl)
  rwa [List.append_nil] at hread

/-- A tree that could be read has tokens. -/
theorem tokens_ne_nil {levels bound : Nat} (h : Readable levels bound e) : e.tokens ≠ [] := by
  intro hnil
  rcases opens_of_readable h with hopens | ⟨-, s, us, hus⟩
  · rw [hnil] at hopens
    cases hopens
  · rw [hnil] at hus
    cases hus

theorem infinityToken_not_mem {levels bound : Nat} (h : Readable levels bound e)
    (hfinite : ∀ t ∈ e.numbers, lower t ≠ "inf") : infinityToken ∉ e.tokens := by
  intro hmem
  obtain ⟨t, ht, hinf⟩ := (infinityToken_mem_tokens_iff h).1 hmem
  exact hfinite t ht hinf

/-- Parsing undoes the canonical form of a query without infinities, unless it has too many
tokens. -/
theorem parse_canonicalize (h : Expr.parse q = .ok e)
    (hfinite : ∀ t ∈ e.numbers, lower t ≠ "inf")
    (hnames : ∀ m ∈ e.matchers, scan m.name.toList = .ok [.ident m.name])
    (htokens : ∀ ts, scan (canonicalize q).toList = .ok ts → ts.length ≤ maxTokens) :
    Expr.parse (canonicalize q) = .ok e.sort.respelled := by
  have hread := readable_sort (readable_of_parse h)
  have hscan := (layout_canonicalize h fun m hm => isPlain_of_scan (hnames m hm)).scan_eq
  rw [flatMap_scanned (infinityToken_not_mem hread (by rwa [Expr.numbers_sort]))] at hscan
  exact parse_eq_ok_iff.2 ⟨_, hscan, tokens_ne_nil hread, htokens _ hscan, exprAt_tokens hread⟩

/-- The statement at an aggregation whose labels are in no order. -/
theorem parse_canonicalize_aggregation : Expr.parse "sum by (a, b) (up\x7bc!=\"x\"\x7d) > 10" =
    .ok (.binary .greater (.aggregate "sum" none (.selector (some "up") [⟨"c", .notEqual, "x"⟩] none
      .empty) (some ⟨false, ["a", "b"]⟩)) (.number "10") false none) := by
  have hparse : Expr.parse "sum(up\x7bc!=\"x\"\x7d)by(b,a)>1e1" =
      .ok (.binary .greater (.aggregate "sum" none (.selector (some "up") [⟨"c", .notEqual, "x"⟩] none
        .empty) (some ⟨false, ["b", "a"]⟩)) (.number "1e1") false none) :=
    parse_eq_ok_iff.2 ⟨[.ident "sum", .leftParen, .ident "up", .leftBrace, .ident "c",
      .symbol .notEqual, .string "x", .rightBrace, .rightParen, .ident "by", .leftParen, .ident "b",
      .comma, .ident "a", .rightParen, .symbol .greater, .number "1e1"],
      by decide +kernel, by simp, by decide, by rfl⟩
  have hlabels : sortLabels ["b", "a"] = ["a", "b"] := by
    simp [sortLabels, List.mergeSort, List.MergeSort.Internal.splitInTwo, List.merge]
    decide
  have hsort : (Expr.binary .greater (.aggregate "sum" none (.selector (some "up")
      [⟨"c", .notEqual, "x"⟩] none .empty) (some ⟨false, ["b", "a"]⟩)) (.number "1e1") false
      none).sort = .binary .greater (.aggregate "sum" none (.selector (some "up")
      [⟨"c", .notEqual, "x"⟩] none .empty) (some ⟨false, ["a", "b"]⟩)) (.number "1e1") false none := by
    simp [Grouping.sort, sortMatchers, hlabels]
  have htext : canonicalize "sum(up\x7bc!=\"x\"\x7d)by(b,a)>1e1"
      = "sum by (a, b) (up\x7bc!=\"x\"\x7d) > 10" := by
    rw [canonicalize_of_ok hparse, hsort]
    decide +kernel
  have hscan : scan "sum by (a, b) (up\x7bc!=\"x\"\x7d) > 10".toList = .ok [.ident "sum", .ident "by",
      .leftParen, .ident "a", .comma, .ident "b", .rightParen, .leftParen, .ident "up", .leftBrace,
      .ident "c", .symbol .notEqual, .string "x", .rightBrace, .rightParen, .symbol .greater,
      .number "10"] := by decide +kernel
  have hrespell : respell "1e1" = "10" := by decide +kernel
  have h := parse_canonicalize hparse (by simp; decide) (by simp; decide +kernel) fun ts hts => by
    rw [htext, hscan, Except.ok.injEq] at hts
    rw [← hts]
    decide
  rwa [htext, hsort, Expr.respelled_binary, Expr.respelled_aggregate, Option.map_none,
    Expr.respelled_selector, Expr.respelled_number, hrespell] at h

/-- Queries with one canonical text have one sorted tree, up to the spelling of numbers. -/
theorem respelled_eq_of_canonicalize_eq {q₁ q₂ : String} {e₁ e₂ : Expr}
    (h₁ : Expr.parse q₁ = .ok e₁) (h₂ : Expr.parse q₂ = .ok e₂)
    (hnames₁ : ∀ m ∈ e₁.matchers, scan m.name.toList = .ok [.ident m.name])
    (hnames₂ : ∀ m ∈ e₂.matchers, scan m.name.toList = .ok [.ident m.name])
    (h : canonicalize q₁ = canonicalize q₂) : e₁.sort.respelled = e₂.sort.respelled := by
  have hlayout₁ := layout_canonicalize h₁ fun m hm => isPlain_of_scan (hnames₁ m hm)
  have hlayout₂ := layout_canonicalize h₂ fun m hm => isPlain_of_scan (hnames₂ m hm)
  rw [h] at hlayout₁
  have hread₁ := exprAt_tokens (readable_sort (readable_of_parse h₁))
  have hread₂ := exprAt_tokens (readable_sort (readable_of_parse h₂))
  rw [hlayout₁.unique hlayout₂, hread₂, Except.ok.injEq, Prod.mk.injEq] at hread₁
  exact hread₁.1.symm

/-- The statement at two spellings of a comparison. -/
theorem respelled_eq_of_canonicalize_eq_comparison :
    (Expr.binary .greater (.selector none [⟨"b", .equal, ""⟩, ⟨"a", .equal, "1"⟩] none .empty)
        (.number "1e1") false none).sort.respelled
      = (Expr.binary .greater (.selector none [⟨"a", .equal, "1"⟩, ⟨"b", .equal, ""⟩] none .empty)
        (.number "10.0") false none).sort.respelled := by
  have hleft : Expr.parse "\x7bb=\"\",a=\"1\"\x7d > 1e1" = .ok (.binary .greater
      (.selector none [⟨"b", .equal, ""⟩, ⟨"a", .equal, "1"⟩] none .empty) (.number "1e1") false none) :=
    parse_eq_ok_iff.2 ⟨[.leftBrace, .ident "b", .symbol .assign, .string "", .comma, .ident "a",
      .symbol .assign, .string "1", .rightBrace, .symbol .greater, .number "1e1"],
      by decide +kernel, by simp, by decide, by rfl⟩
  have hright : Expr.parse "\x7ba=\"1\",b=\"\"\x7d>10.0" = .ok (.binary .greater
      (.selector none [⟨"a", .equal, "1"⟩, ⟨"b", .equal, ""⟩] none .empty) (.number "10.0") false none) :=
    parse_eq_ok_iff.2 ⟨[.leftBrace, .ident "a", .symbol .assign, .string "1", .comma, .ident "b",
      .symbol .assign, .string "", .rightBrace, .symbol .greater, .number "10.0"],
      by decide +kernel, by simp, by decide, by rfl⟩
  have htext : canonicalize "\x7bb=\"\",a=\"1\"\x7d > 1e1" = canonicalize "\x7ba=\"1\",b=\"\"\x7d>10.0" := by
    have hsorted : sortMatchers [⟨"a", .equal, "1"⟩, ⟨"b", .equal, ""⟩]
        = [⟨"a", .equal, "1"⟩, ⟨"b", .equal, ""⟩] :=
      List.mergeSort_of_pairwise (by decide +kernel)
    have hswapped : sortMatchers [⟨"b", .equal, ""⟩, ⟨"a", .equal, "1"⟩]
        = [⟨"a", .equal, "1"⟩, ⟨"b", .equal, ""⟩] := by
      simp [sortMatchers, List.mergeSort, List.MergeSort.Internal.splitInTwo, List.merge]
      decide +kernel
    rw [canonicalize_of_ok hleft, canonicalize_of_ok hright, Expr.sort_binary, Expr.sort_binary,
      Expr.sort_selector, Expr.sort_selector, Expr.sort_number, Expr.sort_number, hsorted, hswapped]
    decide +kernel
  exact respelled_eq_of_canonicalize_eq hleft hright (by simp; decide +kernel)
    (by simp; decide +kernel) htext

/-- A name that is read in quotes is printed without them, and its text may be that of two
matchers. -/
theorem canonicalize_eq_of_quoted_name :
    canonicalize "\x7b\"a=\\\"b\\\", c\"=\"d\"\x7d" = canonicalize "\x7ba=\"b\", c=\"d\"\x7d"
      ∧ Expr.parse "\x7b\"a=\\\"b\\\", c\"=\"d\"\x7d"
        = .ok (.selector none [⟨"a=\"b\", c", .equal, "d"⟩] none .empty)
      ∧ Expr.parse "\x7ba=\"b\", c=\"d\"\x7d"
        = .ok (.selector none [⟨"a", .equal, "b"⟩, ⟨"c", .equal, "d"⟩] none .empty)
      ∧ (Expr.selector none [⟨"a=\"b\", c", .equal, "d"⟩] none .empty).sort.respelled
        ≠ (Expr.selector none [⟨"a", .equal, "b"⟩, ⟨"c", .equal, "d"⟩] none .empty).sort.respelled := by
  have hquoted : Expr.parse "\x7b\"a=\\\"b\\\", c\"=\"d\"\x7d"
      = .ok (.selector none [⟨"a=\"b\", c", .equal, "d"⟩] none .empty) :=
    parse_eq_ok_iff.2 ⟨[.leftBrace, .string "a=\"b\", c", .symbol .assign, .string "d",
      .rightBrace], by decide +kernel, by simp, by decide, by rfl⟩
  have hplain : Expr.parse "\x7ba=\"b\", c=\"d\"\x7d"
      = .ok (.selector none [⟨"a", .equal, "b"⟩, ⟨"c", .equal, "d"⟩] none .empty) :=
    parse_eq_ok_iff.2 ⟨[.leftBrace, .ident "a", .symbol .assign, .string "b", .comma, .ident "c",
      .symbol .assign, .string "d", .rightBrace], by decide +kernel, by simp, by decide, by rfl⟩
  have hsorted : sortMatchers [⟨"a", .equal, "b"⟩, ⟨"c", .equal, "d"⟩]
      = [⟨"a", .equal, "b"⟩, ⟨"c", .equal, "d"⟩] :=
    List.mergeSort_of_pairwise (by decide +kernel)
  refine ⟨?_, hquoted, hplain, ?_⟩
  · rw [canonicalize_of_ok hquoted, canonicalize_of_ok hplain, Expr.sort_selector,
      Expr.sort_selector, hsorted]
    decide +kernel
  · intro h
    have hlength := congrArg (fun e => e.matchers.length) h
    simp [sortMatchers] at hlength

end RuleCatalog.Query
