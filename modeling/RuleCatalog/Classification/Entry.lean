import RuleCatalog.Rule.Label
import RuleCatalog.Rule.Error

/-! # Classifications

Component and layer that users assign to a rule, and patches that change them field by field.
An entry without any field is not kept. -/
namespace RuleCatalog

/-- The scope of an alert's impact. -/
inductive Layer where
  | cluster | «namespace»
  deriving DecidableEq, Repr

namespace Layer

def text : Layer → String
  | .cluster => "cluster"
  | .namespace => "namespace"

def read (s : String) : Except ValidationError Layer :=
  if s = "cluster" then .ok .cluster
  else if s = "namespace" then .ok .namespace
  else .error (.invalidLayer s)

theorem read_text (l : Layer) : read l.text = .ok l := by cases l <;> rfl

end Layer

/-- The classification of a rule. The last two fields name labels whose values at run time
supply the component and the layer. -/
structure Classification where
  component : Option String
  layer : Option String
  componentFrom : Option String
  layerFrom : Option String
  deriving DecidableEq, Repr

namespace Classification

def empty : Classification := ⟨none, none, none, none⟩

def isEmpty (c : Classification) : Bool := c == empty

end Classification

/-- A change of one field. -/
inductive FieldPatch where
  | unset | clear
  | set (value : String)
  deriving DecidableEq, Repr

namespace FieldPatch

/-- The value of a field after a change; an empty value clears it. -/
def apply (p : FieldPatch) (old : Option String) : Option String :=
  match p with
  | .unset => old
  | .clear => none
  | .set v => if v = "" then none else some v

/-- A value that the patch would store. -/
def value? : FieldPatch → Option String
  | .set v => if v = "" then none else some v
  | _ => none

end FieldPatch

structure ClassificationPatch where
  component : FieldPatch
  layer : FieldPatch
  componentFrom : FieldPatch
  layerFrom : FieldPatch
  deriving DecidableEq, Repr

/-- Whether a text is the value of a label: at most 63 letters, digits, dashes, underscores and
points, with a letter or digit at both ends. -/
def isLabelValue (s : String) : Bool :=
  let cs := s.toList
  (cs.head?.any Char.isAlphanum) && (cs.getLast?.any Char.isAlphanum) && cs.length ≤ 63
    && cs.all fun c => c.isAlphanum || c == '-' || c == '_' || c == '.'

namespace ClassificationPatch

def isNoop (p : ClassificationPatch) : Bool :=
  p.component == .unset && p.layer == .unset && p.componentFrom == .unset && p.layerFrom == .unset

/-- Refuses a value that a check refuses. -/
def checkField (f : FieldPatch) (check : String → Except ValidationError Unit) :
    Except ValidationError Unit :=
  match f.value? with
  | none => .ok ()
  | some v => check v

def checkComponent (v : String) : Except ValidationError Unit :=
  if isLabelValue v then .ok () else .error (.invalidComponent v)

def checkLabelName (v : String) : Except ValidationError Unit :=
  if Label.isName v then .ok () else .error (.invalidLabelName v)

def validate (p : ClassificationPatch) : Except ValidationError Unit := do
  checkField p.layer fun v => (Layer.read v).map fun _ => ()
  checkField p.component checkComponent
  checkField p.componentFrom checkLabelName
  checkField p.layerFrom checkLabelName

/-- The entry after a patch, unless nothing is left of it. -/
def apply (p : ClassificationPatch) (current : Option Classification) : Option Classification :=
  let c := current.getD .empty
  let next : Classification :=
    ⟨p.component.apply c.component, p.layer.apply c.layer,
      p.componentFrom.apply c.componentFrom, p.layerFrom.apply c.layerFrom⟩
  if next.isEmpty then none else some next

end ClassificationPatch

end RuleCatalog
