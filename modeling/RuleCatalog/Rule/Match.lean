import RuleCatalog.Rule.Span
import RuleCatalog.Rule.Basic
import RuleCatalog.Query.Canonical

/-! # Matching reported rules

A running system reports its rules in its own words. The definition of a reported rule is
looked for among candidates in three tiers: the one that agrees in name, query, duration and
labels; the only one that agrees in name, query and duration; the only one with the name.
Main statement: `mem_of_findAmong`, that what is found is one of the candidates. -/
namespace RuleCatalog

/-- A rule as a running system reports it, its duration in seconds. -/
structure ReportedRule where
  name : String
  query : String
  duration : Float
  labels : Labels

inductive MatchOutcome (α : Type) where
  | strict (found : α)
  | relaxed (found : α)
  | sole (found : α)
  /-- Several candidates agree in name, query and duration. -/
  | ambiguous
  | none
  deriving DecidableEq, Repr

/-- The candidate that was found, if one was. -/
def MatchOutcome.found? {α : Type} : MatchOutcome α → Option α
  | .strict a | .relaxed a | .sole a => some a
  | .ambiguous | .none => Option.none

/-- Durations that differ by less are the same. -/
def durationTolerance : Float := 1e-6

/-- The seconds of a rule's duration; a blank one is zero. -/
def Rule.holdSeconds? (r : Rule) : Option Float :=
  match r.hold with
  | none => some 0
  | some d => if Text.trimmed d = "" then some 0 else Span.seconds? (Text.trimmed d)

def Rule.holdsFor (r : Rule) (seconds : Float) : Bool :=
  match r.holdSeconds? with
  | some d => (d - seconds).abs < durationTolerance
  | none => false

namespace ReportedRule

def agreesInQuery (q : ReportedRule) (r : Rule) : Bool :=
  Query.canonicalize r.expr == Query.canonicalize q.query && r.holdsFor q.duration

/-- The definition of a reported rule among candidates. -/
def findAmong {α : Type} (q : ReportedRule) (rule : α → Rule) (candidates : List α) :
    MatchOutcome α :=
  let named := candidates.filter fun c => (rule c).name? == some q.name
  let relaxed := named.filter fun c => q.agreesInQuery (rule c)
  let strict := relaxed.filter fun c => (rule c).labels.business == q.labels.business
  match strict, relaxed, named with
  | [c], _, _ => .strict c
  | _, [c], _ => .relaxed c
  | _, _ :: _ :: _, _ => .ambiguous
  | _, [], [c] => .sole c
  | _, [], _ => .none

/-- What a selection begins with is there. -/
theorem mem_of_filter_eq_cons {α : Type} {p : α → Bool} {l r : List α} {c : α}
    (h : l.filter p = c :: r) : c ∈ l :=
  (List.mem_filter.1 (h ▸ List.mem_cons_self)).1

theorem mem_of_findAmong {α : Type} {q : ReportedRule} {rule : α → Rule} {candidates : List α}
    {c : α} (h : (q.findAmong rule candidates).found? = some c) : c ∈ candidates := by
  unfold findAmong at h
  dsimp only at h
  split at h <;> simp only [MatchOutcome.found?, Option.some.injEq, reduceCtorEq] at h <;> subst h
  · rename_i hs
    have hn := mem_of_filter_eq_cons hs
    exact (List.mem_filter.1 (List.mem_filter.1 hn).1).1
  · rename_i hr _
    exact (List.mem_filter.1 (mem_of_filter_eq_cons hr)).1
  · rename_i hn _
    exact mem_of_filter_eq_cons hn

end ReportedRule

end RuleCatalog
