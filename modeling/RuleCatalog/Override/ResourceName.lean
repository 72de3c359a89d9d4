import RuleCatalog.Rule.Identity

/-! # Names of override resources

The resource with the overrides of a rule is named after the rule: a row of lower-case letters,
digits and single dashes, with twelve digits of a digest that tell rules apart. -/
namespace RuleCatalog.Override

/-- Letters and digits of a text in lower case, with single dashes between them for all else.
`dash` says whether a dash would be the first one after a letter or digit. -/
def slugFrom (dash : Bool) : List Char → List Char
  | [] => []
  | c :: cs =>
    if c.toLower.isAlphanum then c.toLower :: slugFrom true cs
    else if dash then '-' :: slugFrom false cs
    else slugFrom false cs

/-- The part of the name that comes from the rule's name. -/
def slug (name : String) : List Char :=
  (((slugFrom false name.toList).take 40).reverse.dropWhile (· == '-')).reverse

def resourceName (id : Identity) : String :=
  let code := (Sha256.hexDigest (Utf8.bytes id.text)).toList.take 12
  match slug id.ruleName with
  | [] => .ofList ("arc-".toList ++ code)
  | s => .ofList ("arc-".toList ++ s ++ '-' :: code)

end RuleCatalog.Override
