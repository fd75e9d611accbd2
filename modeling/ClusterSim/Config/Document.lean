import ClusterSim.Config
import ClusterSim.Yaml.Field

/-!
# Configurations in documents

A configuration is the record at the root of a document, with a section for each concern. What is
not there has its default. A text that is blank, or has no document, configures nothing.
-/

namespace ClusterSim

open Yaml
open Yaml.Document (Passage)

/-- Reads a configured node. -/
def NodeConfig.ofNode (node : Yaml.Node) : Passage NodeConfig := do
  let fields ← node.asRecord ["name", "capacity"]
  let capacity ← Node.field fields "capacity" [] fun node => do
    (← node.asEntries).mapM fun entry => do return (entry.1, ← entry.2.asText)
  match fields.lookup "name" with
  | some name => return { name := ← name.asText, capacity := .ofList capacity }
  | none => throw (.missingField "name")

namespace Config

/-- Reads a section that has one field. -/
def section? {α : Type} (name : String) (default : α) (read : Yaml.Node → Passage α)
    (node : Yaml.Node) : Passage α := do
  Node.field (← node.asRecord [name]) name default read

/-- Reads a configuration. -/
def ofNode (node : Yaml.Node) : Passage Config := do
  let fields ← node.asRecord
    ["tick", "start_clock", "logging", "scheduler", "simulation", "cluster"]
  let sectionOf {α : Type} (name inner : String) (default : α)
      (read : Yaml.Node → Passage α) : Passage α :=
    Node.field fields name default (section? inner default read)
  return {
    tick := ← Node.field fields "tick" default.tick Node.asWord64
    startClock := ← Node.field fields "start_clock" default.startClock Node.asText
    level := ← sectionOf "logging" "level" default.level Node.asText
    strategy := ← sectionOf "scheduler" "strategy" default.strategy
      (Node.asChoice Strategy.ofKeyword?)
    maxTicks := ← sectionOf "simulation" "max_ticks" default.maxTicks Node.asWord64
    nodes := ← sectionOf "cluster" "nodes" default.nodes fun node => do
      (← node.asItems).mapM NodeConfig.ofNode }

/-- Reads a configuration from a text, without the checks on it. -/
def read (text : String) : Except Fault Config := do
  if Text.allBlank text then return default
  else
    match ← Document.parse text with
    | some document => document.read (ofNode document.root)
    | none => return default

/-- Reads and checks a configuration. -/
def parse (text : String) : Except ConfigError Config := do
  let config ← (read text).mapError fun fault => .malformed fault.message
  config.validate

end Config

end ClusterSim
