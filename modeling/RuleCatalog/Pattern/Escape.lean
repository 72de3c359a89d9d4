/-! # Escaped texts in patterns

The pattern that matches exactly a given text. Main statement: `escape` loses nothing. -/
namespace RuleCatalog.Pattern

/-- The characters with a meaning in patterns. -/
def isMeta (c : Char) : Bool :=
  c ∈ ['\\', '.', '+', '*', '?', '(', ')', '|', '[', ']', '{', '}', '^', '$', '#', '&', '-', '~']

/-- The pattern of a text. -/
def escape (s : List Char) : List Char := s.flatMap fun c => if isMeta c then ['\\', c] else [c]

theorem escape_cons (c : Char) (s : List Char) :
    escape (c :: s) = (if isMeta c then ['\\', c] else [c]) ++ escape s := rfl

theorem escape_injective {s t : List Char} (h : escape s = escape t) : s = t := by
  induction s generalizing t with
  | nil =>
    cases t with
    | nil => rfl
    | cons d t => rw [escape_cons] at h; split at h <;> simp [escape] at h
  | cons c s ih =>
    cases t with
    | nil => rw [escape_cons] at h; split at h <;> simp [escape] at h
    | cons d t =>
      have hm : isMeta '\\' = true := by decide
      simp only [escape_cons] at h
      split at h <;> split at h
      · simp at h; rw [h.1, ih h.2]
      · rename_i hd; simp at h; exact absurd (h.1 ▸ hm) hd
      · rename_i hc _; simp at h; exact absurd (h.1 ▸ hm) hc
      · simp at h; rw [h.1, ih h.2]

end RuleCatalog.Pattern
