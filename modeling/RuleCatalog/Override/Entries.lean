import RuleCatalog.Relabel.Entry
import RuleCatalog.Rule.Identity
import RuleCatalog.Pattern.Escape
import RuleCatalog.Pattern.Template

/-! # Entries of overrides

The labels of a platform rule are changed by relabel entries of three shapes. An anchor stamps
the identity onto the instances with exactly the stated labels; overrides and drops are
scoped to what carries the stamp, so they touch nothing else. -/
namespace RuleCatalog.Override

/-- The replacement that stands for a given value. -/
def written (value : String) : String := .ofList (Template.escape value.toList)

/-- Joins pairs of dollar signs, from left to right. -/
def joinDollars : List Char → List Char
  | '$' :: '$' :: cs => '$' :: joinDollars cs
  | c :: cs => c :: joinDollars cs
  | [] => []

/-- The value that a written replacement stands for. -/
def read (replacement : String) : String := .ofList (joinDollars replacement.toList)

/-- The pattern of a given text. -/
def exactly (s : String) : String := .ofList (Pattern.escape s.toList)

/-- The stated labels that tell the instances of a rule apart: the business labels without
the namespace. -/
def anchoring (stated : Labels) : Labels :=
  stated.filter fun k _ => !(Label.isSystem k || k == Label.namespaceLabel)

/-- Stamps the identity onto unstamped instances with the stated name and labels. -/
def anchor (id : Identity) (alertName : String) (stated : Labels) : RelabelEntry :=
  let labels := anchoring stated
  { RelabelEntry.default with
    sources := Label.ruleId :: Label.alertName :: labels.keys
    regex := String.intercalate ";" ("" :: exactly alertName :: labels.values.map exactly)
    target := Label.ruleId
    replacement := written id.text }

/-- Sets a label of what carries the stamp. -/
def override (id : Identity) (label value : String) : RelabelEntry :=
  { RelabelEntry.default with
    sources := [Label.ruleId]
    regex := exactly id.text
    target := label
    replacement := written value }

/-- Drops what carries the stamp. -/
def silence (id : Identity) : RelabelEntry :=
  { RelabelEntry.default with
    sources := [Label.ruleId]
    regex := exactly id.text
    action := .drop }

def isAnchor (id : Identity) (e : RelabelEntry) : Bool :=
  e.action == .replace && e.target == Label.ruleId && e.replacement == written id.text

def isScoped (id : Identity) (e : RelabelEntry) : Bool :=
  e.sources == [Label.ruleId] && e.regex == exactly id.text

def isSilence (id : Identity) (e : RelabelEntry) : Bool := e.action == .drop && isScoped id e

/-- The label and value of an override. -/
def pair? (id : Identity) (e : RelabelEntry) : Option (String × String) :=
  if e.action == .replace && isScoped id e && e.target != "" && e.target != Label.ruleId then
    some (e.target, read e.replacement)
  else none

def belongs (id : Identity) (e : RelabelEntry) : Bool := isAnchor id e || isScoped id e

/-- The overrides of a rule in a list of entries; later entries win. -/
def current (id : Identity) (entries : List RelabelEntry) : Labels :=
  .ofList (entries.filterMap (pair? id))

/-- Whether a rule is silenced by a list of entries. -/
def isDropped (id : Identity) (entries : List RelabelEntry) : Bool := entries.any (isSilence id)

/-- The stated labels with the overrides of the rule. -/
def effective (id : Identity) (stated : Labels) (entries : List RelabelEntry) : Labels :=
  (current id entries).toList.foldl
    (fun labels p => if p.2 = "" then labels.erase p.1 else labels.insert p.1 p.2) stated

theorem joinDollars_escape (s : List Char) : joinDollars (Template.escape s) = s := by
  induction s with
  | nil => rfl
  | cons c s ih =>
    by_cases h : c = '$'
    · subst h
      simp only [Template.escape, List.flatMap_cons, if_pos, List.cons_append,
        List.nil_append] at ih ⊢
      rw [joinDollars, ih]
    · simp only [Template.escape, List.flatMap_cons, if_neg h, List.cons_append,
        List.nil_append] at ih ⊢
      rw [joinDollars, ih]
      intros; simp_all

theorem read_written (value : String) : read (written value) = value := by
  simp [read, written, joinDollars_escape]

end RuleCatalog.Override
