import ClusterSim.Workload.Random
import ClusterSim.Yaml.Value

/-!
# Random workloads in documents

The configuration of a random workload is the section `submitter` of a document. What is not there
has its default, and so has all of it where there is no such section.
-/

namespace ClusterSim

open Yaml

/-- Why a document has no configuration of a random workload. -/
inductive WorkloadFault where
  /-- The text is no document. -/
  | document (fault : Fault)
  /-- The section is not of the right form. -/
  | settings (fault : Fault)
deriving DecidableEq

/-- The fault in words. -/
def WorkloadFault.message : WorkloadFault → String
  | .document fault => "failed to parse config YAML: " ++ fault.message
  | .settings fault => "failed to parse submitter config: " ++ fault.message

/-- A field that may be missing. -/
def Yaml.Value.field {α : Type} (fields : List (String × Value)) (name : String) (default : α)
    (read : Value → Except Fault α) : Except Fault α :=
  match fields.lookup name with
  | some value => read value
  | none => .ok default

/-- A field that must be there. -/
def Yaml.Value.requiredField {α : Type} (fields : List (String × Value)) (name : String)
    (read : Value → Except Fault α) : Except Fault α :=
  match fields.lookup name with
  | some value => read value
  | none => .error (.missingField name)

/-- Reads a range of quantities. -/
def QuantityRange.ofValue (value : Value) : Except Fault QuantityRange := do
  let fields ← value.asRecord ["min", "max"]
  return {
    min := ← Value.requiredField fields "min" Value.asText
    max := ← Value.requiredField fields "max" Value.asText }

namespace RandomConfig

/-- Reads the configuration of a random workload. -/
def ofValue (value : Value) : Except Fault RandomConfig := do
  let fields ← value.asRecord
    ["seed", "pods_per_tick", "name_prefix", "cpu", "memory", "priorities"]
  return {
    seed := ← Value.field fields "seed" default.seed <| Value.asOptional fun value => do
      return .ofNat (← value.asInteger 0 (UInt64.size - 1)).toNat
    podsPerTick := ← Value.field fields "pods_per_tick" default.podsPerTick fun value => do
      return .ofNat (← value.asInteger 0 (UInt32.size - 1)).toNat
    namePrefix := ← Value.field fields "name_prefix" default.namePrefix Value.asText
    cpu := ← Value.field fields "cpu" default.cpu QuantityRange.ofValue
    memory := ← Value.field fields "memory" default.memory QuantityRange.ofValue
    priorities := ← Value.field fields "priorities" default.priorities fun value => do
      (← value.asItems).mapM fun item => do
        return .ofInt (← item.asInteger (-2147483648) 2147483647) }

/-- Reads the configuration of a random workload from a text. -/
def parse (text : String) : Except WorkloadFault RandomConfig := do
  let value ← (Value.parse text).mapError .document
  match value.get? "submitter" with
  | some settings => (ofValue settings).mapError .settings
  | none => return default

end RandomConfig

end ClusterSim
