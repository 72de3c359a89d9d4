import RuleCatalog.Rule.Identity
import RuleCatalog.Base64

/-! # Keys of classifications

An identity as a key of a container: its bytes in URL-safe base64. -/
namespace RuleCatalog.Identity

def encodeKey (id : Identity) : String := Base64.encode (Utf8.bytes id.text)

def decodeKey (key : String) : Except ValidationError Identity :=
  match Base64.decode (Utf8.bytes key) with
  | .error e => .error (.invalidKey e.message)
  | .ok bs =>
    match Utf8.ofBytes bs with
    | .error e => .error (.invalidKey e.message)
    | .ok s => .ok ⟨s⟩

end RuleCatalog.Identity
