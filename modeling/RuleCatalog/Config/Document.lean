import RuleCatalog.Config.Basic
import RuleCatalog.Yaml.Field

/-! # Configuration documents

A configuration as a YAML record. Every field has a default, times are in seconds or in
milliseconds as the field says, and a number has to fit into its word. -/
namespace RuleCatalog
open Yaml

/-- The bound of 64-bit words. -/
def wordBound : Nat := 2 ^ 64

/-- The bound of 32-bit words. -/
def halfWordBound : Nat := 2 ^ 32

def SecretLocation.fieldNames : List String := ["namespace", "name", "key"]

def SecretLocation.ofYaml (d : Document) (n : Node) : Reading SecretLocation := do
  let fields ← d.record fieldNames n
  return {
    space := ← fields.field "namespace" default.space d.string
    name := ← fields.field "name" default.name d.string
    key := ← fields.field "key" default.key d.string }

namespace Config

/-- The names of the fields in their order. -/
def fieldNames : List String :=
  ["resync_interval", "debounce", "backoff_min", "backoff_max", "relabel_secret",
    "override_namespace", "classification_namespace", "platform_namespace_prefixes",
    "platform_namespaces", "request_timeout", "max_write_attempts"]

def ofYaml (d : Document) (n : Node) : Reading Config := do
  let fields ← d.record fieldNames n
  let seconds (n : Node) := (· * second) <$> d.nat wordBound n
  return {
    resyncInterval := ← fields.field "resync_interval" default.resyncInterval seconds
    debounce := ← fields.field "debounce" default.debounce (d.nat wordBound)
    backoffMin := ← fields.field "backoff_min" default.backoffMin (d.nat wordBound)
    backoffMax := ← fields.field "backoff_max" default.backoffMax seconds
    relabelSecret := ← fields.field "relabel_secret" default.relabelSecret
      (SecretLocation.ofYaml d)
    overrideSpace := ← fields.field "override_namespace" default.overrideSpace d.string
    classificationSpace := ← fields.field "classification_namespace" default.classificationSpace
      d.string
    platformStarts := ← fields.field "platform_namespace_prefixes" default.platformStarts
      (d.list d.string)
    platformSpaces := ← fields.field "platform_namespaces" default.platformSpaces
      (d.list d.string)
    requestTimeout := ← fields.field "request_timeout" default.requestTimeout seconds
    writeAttempts := ← fields.field "max_write_attempts" default.writeAttempts
      (d.nat halfWordBound) }

/-- The configuration that a YAML text holds. -/
def read? (text : String) : Option Config :=
  (Document.read? text).bind fun d => d.decode? (ofYaml d)

end Config

end RuleCatalog
