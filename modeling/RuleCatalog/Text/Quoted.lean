import RuleCatalog.Text.Visible

/-! # Quoted text in messages

How a message shows a text or a character: between quotes, with what would not be visible
written as an escape. Main statement: `quote` keeps visible text without quotes and
backslashes as it stands. -/
namespace RuleCatalog.Text

/-- The escape of a character inside quotes of the given kind. -/
def escaped (mark c : Char) : List Char :=
  if c == '\x00' then ['\\', '0']
  else if c == '\t' then ['\\', 't']
  else if c == '\r' then ['\\', 'r']
  else if c == '\n' then ['\\', 'n']
  else if c == '\\' || c == mark then ['\\', c]
  else if isVisible c then [c]
  else ['\\', 'u', '\x7b'] ++ Nat.toDigits 16 c.toNat ++ ['\x7d']

/-- A text in double quotes. -/
def quote (s : String) : String :=
  .ofList ('"' :: s.toList.flatMap (escaped '"') ++ ['"'])

/-- A character in single quotes. -/
def quoteChar (c : Char) : String := .ofList ('\'' :: escaped '\'' c ++ ['\''])

theorem escaped_eq_self {c : Char} (hv : isVisible c = true) (hb : c ≠ '\\') {mark : Char}
    (hm : c ≠ mark) : escaped mark c = [c] := by
  have h : ∀ d : Char, isVisible d = false → c ≠ d := fun d hd e => by simp [← e, hv] at hd
  simp [escaped, hv, hb, hm, h '\x00' (by decide), h '\t' (by decide), h '\r' (by decide),
    h '\n' (by decide)]

end RuleCatalog.Text
