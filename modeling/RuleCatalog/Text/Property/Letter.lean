import RuleCatalog.Text.Property

/-! # Properties of letters and ideographs

Which characters are letters, digits of numbers, ideographs, and parts or descriptions of
ideographs. -/
namespace RuleCatalog.Text.Property

def ideographic : Ranges := .ofLines [
    "3006-3007 3021-3029 3038-303a 3400-4dbf 4e00-9fff f900-fa6d fa70-fad9 16fe4 17000-187f7",
    "18800-18cd5 18cff-18d08 1b170-1b2fb 20000-2a6df 2a700-2b739 2b740-2b81d 2b820-2cea1",
    "2ceb0-2ebe0 2ebf0-2ee5d 2f800-2fa1d 30000-3134a 31350-323af"]

/-- The sets for letters and ideographs, by name. -/
def letter? : String → Option Ranges
  | "alphabetic" => some alphabetic
  | "otheralphabetic" => some otherAlphabetic
  | "whitespace" => some whiteSpace
  | "asciihexdigit" => some (.ofText "30-39 41-46 61-66")
  | "hexdigit" => some (.ofText "30-39 41-46 61-66 ff10-ff19 ff21-ff26 ff41-ff46")
  | "ideographic" => some ideographic
  | "unifiedideograph" => some (.ofLines [
      "3400-4dbf 4e00-9fff fa0e-fa0f fa11 fa13-fa14 fa1f fa21 fa23-fa24 fa27-fa29 20000-2a6df",
      "2a700-2b739 2b740-2b81d 2b820-2cea1 2ceb0-2ebe0 2ebf0-2ee5d 30000-3134a 31350-323af"])
  | "radical" => some (.ofText "2e80-2e99 2e9b-2ef3 2f00-2fd5")
  | "idsunaryoperator" => some (.ofText "2ffe-2fff")
  | "idsbinaryoperator" => some (.ofText "2ff0-2ff1 2ff4-2ffd 31ef")
  | "idstrinaryoperator" => some (.ofText "2ff2-2ff3")
  | "logicalorderexception" => some (.ofLines [
      "e40-e44 ec0-ec4 19b5-19b7 19ba aab5-aab6 aab9 aabb-aabc"])
  | _ => none

end RuleCatalog.Text.Property
