import RuleCatalog.Rule.Basic
import RuleCatalog.Query.Canonical
import RuleCatalog.Sha256
import RuleCatalog.Text.Utf8

/-! # Identities of rules

A rule is tracked by its name and the digest of its business content. Labels of the system are
no part of the content, so stamping a rule leaves its identity as it is. -/
namespace RuleCatalog

/-- The identity of a rule; the empty one says that a rule cannot be tracked. -/
structure Identity where
  text : String
  deriving DecidableEq, Repr, Inhabited

namespace Identity

instance : Ord Identity := ⟨compareOn text⟩

instance : Std.TransOrd Identity := inferInstanceAs (Std.TransCmp (compareOn text))

instance : Std.LawfulEqOrd Identity where
  compare_self {a} := show compare a.text a.text = .eq from Std.ReflCmp.compare_self
  eq_of_compare {a b} h := by
    have : a.text = b.text := Std.LawfulEqOrd.eq_of_compare h
    cases a; cases b; simp_all

def empty : Identity := ⟨""⟩

def isEmpty (i : Identity) : Bool := i.text == ""

/-- The parts of an identity before and after its last semicolon. -/
def split (i : Identity) : Option (List Char × List Char) :=
  let back := i.text.toList.reverse
  match back.dropWhile (· != ';') with
  | [] => none
  | _ :: front => some (front.reverse, (back.takeWhile (· != ';')).reverse)

/-- The name of the rule. -/
def ruleName (i : Identity) : String :=
  match i.split with
  | some (name, _) => .ofList name
  | none => i.text

/-- The digest of the rule's content, in hexadecimal digits. -/
def digest (i : Identity) : String :=
  match i.split with
  | some (_, digest) => .ofList digest
  | none => ""

/-- Entries as `key=value`, with commas between them. -/
def joinPairs (labels : Labels) : String :=
  String.intercalate "," (labels.toList.map fun p => p.1 ++ "=" ++ p.2)

/-- The business content of a rule with a name. -/
def content (r : Rule) (name : String) : String :=
  String.intercalate "\n" [
    "kind=" ++ r.kind.text,
    "name=" ++ name,
    "expr=" ++ Query.canonicalize r.expr,
    "for=" ++ Text.trimmed (r.hold.getD ""),
    "labels=" ++ joinPairs r.labels.business,
    "annotations=" ++ joinPairs r.annotations]

/-- The identity of a rule, empty for a rule without a name. -/
def ofRule (r : Rule) : Identity :=
  match r.name? with
  | none => .empty
  | some name => ⟨name ++ ";" ++ Sha256.hexDigest (Utf8.bytes (content r name))⟩

end Identity

end RuleCatalog
