import RuleCatalog.Text.Property

/-! # Properties for identifiers

Which characters names of programs begin and go on with, and which characters are kept for
the punctuation of programs. -/
namespace RuleCatalog.Text.Property

def patternSyntax : Ranges := .ofLines [
    "21-2f 3a-40 5b-5e 60 7b-7e a1-a7 a9 ab-ac ae b0-b1 b6 bb bf d7 f7 2010-2027 2030-203e",
    "2041-2053 2055-205e 2190-245f 2500-2775 2794-2bff 2e00-2e7f 3001-3003 3008-3020 3030",
    "fd3e-fd3f fe45-fe46"]

def otherIdStart : Ranges := .ofText "1885-1886 2118 212e 309b-309c"

def otherIdContinue : Ranges := .ofText "b7 387 1369-1371 19da 200c-200d 30fb ff65"

/-- Letters, letter numbers and a few more, but for the marks of punctuation among them. -/
def idStart : Ranges :=
  (Category.starting 'l' ++ Category.nl ++ otherIdStart).without patternSyntax

def idContinue : Ranges :=
  idStart ++ Category.mn ++ Category.mc ++ Category.nd ++ Category.pc ++ otherIdContinue

/-- Characters that begin or continue a name, but not after compatible forms have been unified. -/
def unstable : Ranges := .ofText
  "37a 309b-309c fc5e-fc63 fdfa-fdfb fe70 fe72 fe74 fe76 fe78 fe7a fe7c fe7e"

/-- As `unstable`, for characters that may go on with a name, but no longer begin one. -/
def unstableStart : Ranges := .ofText "e33 eb3 ff9e-ff9f"

/-- Signs of analysis that begin names in formulas: partial derivatives, nablas, infinity. -/
def mathStart : Ranges := .ofText
  "2202 2207 221e 1d6c1 1d6db 1d6fb 1d715 1d735 1d74f 1d76f 1d789 1d7a9 1d7c3"

/-- The sets for identifiers, by name. -/
def identifier? : String → Option Ranges
  | "idstart" => some idStart
  | "idcontinue" => some idContinue
  | "xidstart" => some (idStart.without (unstable ++ unstableStart))
  | "xidcontinue" => some (idContinue.without unstable)
  | "otheridstart" => some otherIdStart
  | "otheridcontinue" => some otherIdContinue
  | "idcompatmathstart" => some mathStart
  | "idcompatmathcontinue" => some (mathStart ++ .ofText "b2-b3 b9 2070 2074-207e 2080-208e")
  | "patternsyntax" => some patternSyntax
  | "patternwhitespace" => some (.ofText "9-d 20 85 200e-200f 2028-2029")
  | _ => none

end RuleCatalog.Text.Property
