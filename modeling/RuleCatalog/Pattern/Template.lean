import RuleCatalog.Pattern.Search

/-! # Replacement templates

Texts in which a dollar sign with the number or name of a group stands for what the group
matched. Main statement: `expand_escape`, that a text with its dollar signs doubled
stands for itself. -/
namespace RuleCatalog.Template
open Text

/-- What names of groups are made of, outside braces. -/
def isNameChar (c : Char) : Bool := c.isAlphanum || c == '_'

/-- The text of the group that a reference names; a number may be too large to be one. -/
def reference (c : Captures) (name : List Char) : List Char :=
  match (readSigned? 10 name).filter (· < 2 ^ 64) with
  | some n => (c.group n).toList
  | none => (((c.number? (.ofList name)).map c.group).getD "").toList

/-- The text that a template stands for. -/
def expand (c : Captures) (template : List Char) : List Char :=
  match template with
  | [] => []
  | '$' :: '$' :: cs => '$' :: expand c cs
  | '$' :: '{' :: cs =>
    if cs.contains '}' then
      reference c (cs.takeWhile (· != '}'))
        ++ expand c (cs.drop ((cs.takeWhile (· != '}')).length + 1))
    else '$' :: expand c ('{' :: cs)
  | '$' :: cs =>
    if (cs.takeWhile isNameChar).isEmpty then '$' :: expand c cs
    else
      reference c (cs.takeWhile isNameChar) ++ expand c (cs.drop (cs.takeWhile isNameChar).length)
  | ch :: cs => ch :: expand c cs
termination_by template.length
decreasing_by all_goals (simp; try omega)

/-- A template that stands for a given text. -/
def escape (s : List Char) : List Char := s.flatMap fun c => if c = '$' then ['$', '$'] else [c]

theorem expand_escape (c : Captures) (s : List Char) : expand c (escape s) = s := by
  induction s with
  | nil => simp [escape, expand]
  | cons ch s ih =>
    by_cases h : ch = '$'
    · subst h
      simp only [escape, List.flatMap_cons, if_pos, List.cons_append, List.nil_append] at ih ⊢
      rw [expand, ih]
    · simp only [escape, List.flatMap_cons, if_neg h, List.cons_append, List.nil_append] at ih ⊢
      rw [expand]
      · rw [ih]
      all_goals (intros; simp_all)

end RuleCatalog.Template
