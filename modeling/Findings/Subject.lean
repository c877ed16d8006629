import Findings.Json.Shape

/-!
What is scanned: the agent that reported it, its operating system, and the item of its inventory.
-/

namespace Findings

open Json

/-- The agent that reported the inventory. -/
structure Agent where
  id : String := ""
  ip : String := ""
  version : String := ""
  name : String := ""
  deriving DecidableEq, Repr, Inhabited

namespace Agent

/-- The fields in order. -/
def shape : Struct where
  title := "struct AgentInfo"
  fields := ["id", "ip", "version", "name"].map fun name => .defaulted name Reader.string

/-- Reads an agent. -/
def read (source : Source) : Reader Agent := fun d => do
  let members ← shape.known source d
  let text (name : String) := orElse members name Reader.string ""
  return {
    id := ← text "id"
    ip := ← text "ip"
    version := ← text "version"
    name := ← text "name" }

/-- The agent as a value. -/
def toJson (a : Agent) : Json :=
  .object [("id", .string a.id), ("ip", .string a.ip), ("version", .string a.version),
    ("name", .string a.name)]

end Agent

/-- What the agent says of its operating system. -/
structure SystemFacts where
  hostname : String := ""
  architecture : String := ""
  name : String := ""
  codename : String := ""
  majorVersion : String := ""
  minorVersion : String := ""
  patch : String := ""
  build : String := ""
  platform : String := ""
  version : String := ""
  release : String := ""
  displayVersion : String := ""
  sysname : String := ""
  kernelVersion : String := ""
  kernelRelease : String := ""
  deriving DecidableEq, Repr, Inhabited

namespace SystemFacts

/-- The fields in order. -/
def shape : Struct where
  title := "struct OsFacts"
  fields := ["hostname", "architecture", "name", "codename", "major_version", "minor_version",
    "patch", "build", "platform", "version", "release", "display_version", "sysname",
    "kernel_version", "kernel_release"].map fun name => .defaulted name Reader.string

/-- Reads facts. -/
def read (source : Source) : Reader SystemFacts := fun d => do
  let members ← shape.known source d
  let text (name : String) := orElse members name Reader.string ""
  return {
    hostname := ← text "hostname"
    architecture := ← text "architecture"
    name := ← text "name"
    codename := ← text "codename"
    majorVersion := ← text "major_version"
    minorVersion := ← text "minor_version"
    patch := ← text "patch"
    build := ← text "build"
    platform := ← text "platform"
    version := ← text "version"
    release := ← text "release"
    displayVersion := ← text "display_version"
    sysname := ← text "sysname"
    kernelVersion := ← text "kernel_version"
    kernelRelease := ← text "kernel_release" }

/-- The facts as a value. -/
def toJson (s : SystemFacts) : Json :=
  .object [("hostname", .string s.hostname), ("architecture", .string s.architecture),
    ("name", .string s.name), ("codename", .string s.codename),
    ("major_version", .string s.majorVersion), ("minor_version", .string s.minorVersion),
    ("patch", .string s.patch), ("build", .string s.build), ("platform", .string s.platform),
    ("version", .string s.version), ("release", .string s.release),
    ("display_version", .string s.displayVersion), ("sysname", .string s.sysname),
    ("kernel_version", .string s.kernelVersion), ("kernel_release", .string s.kernelRelease)]

end SystemFacts

/-- An installed package, as the inventory lists it. -/
structure Package where
  architecture : String := ""
  checksum : String := ""
  description : String := ""
  format : String := ""
  groups : String := ""
  /-- What the inventory knows the package by. -/
  itemId : Option String := none
  multiarch : String := ""
  name : String := ""
  priority : String := ""
  scanTime : String := ""
  size : UInt64 := 0
  source : String := ""
  vendor : String := ""
  version : String := ""
  installTime : String := ""
  location : String := ""
  deriving DecidableEq, Repr, Inhabited

namespace Package

/-- The fields in order. -/
def shape : Struct where
  title := "struct PackageInfo"
  fields :=
    (["architecture", "checksum", "description", "format", "groups"].map fun name =>
      .defaulted name Reader.string) ++
    [.defaulted "item_id" Reader.optionalString] ++
    (["multiarch", "name", "priority", "scan_time"].map fun name =>
      .defaulted name Reader.string) ++
    [.defaulted "size" (Reader.word "u64")] ++
    (["source", "vendor", "version", "install_time", "location"].map fun name =>
      .defaulted name Reader.string)

/-- Reads a package. -/
def read (source : Source) : Reader Package := fun d => do
  let members ← shape.known source d
  let text (name : String) := orElse members name Reader.string ""
  return {
    architecture := ← text "architecture"
    checksum := ← text "checksum"
    description := ← text "description"
    format := ← text "format"
    groups := ← text "groups"
    itemId := ← orElse members "item_id" Reader.optionalString none
    multiarch := ← text "multiarch"
    name := ← text "name"
    priority := ← text "priority"
    scanTime := ← text "scan_time"
    size := ← orElse members "size" (Reader.word "u64") 0
    source := ← text "source"
    vendor := ← text "vendor"
    version := ← text "version"
    installTime := ← text "install_time"
    location := ← text "location" }

/-- The package as a value. -/
def toJson (p : Package) : Json :=
  .object [("architecture", .string p.architecture), ("checksum", .string p.checksum),
    ("description", .string p.description), ("format", .string p.format),
    ("groups", .string p.groups), ("item_id", .ofOption p.itemId),
    ("multiarch", .string p.multiarch), ("name", .string p.name),
    ("priority", .string p.priority), ("scan_time", .string p.scanTime),
    ("size", .ofNat p.size.toNat), ("source", .string p.source), ("vendor", .string p.vendor),
    ("version", .string p.version), ("install_time", .string p.installTime),
    ("location", .string p.location)]

end Package

/-- The item that is scanned. -/
inductive Payload where
  | package (package : Package)
  | empty
  deriving DecidableEq, Repr, Inhabited

namespace Payload

/-- The inventory identifier of the item; an empty one counts as none. -/
def itemId : Payload → Option String
  | package p => p.itemId.filter (· ≠ "")
  | empty => none

/-- Reads a payload. -/
def read (source : Source) : Reader Payload := fun d => do
  let variant ← variantOf source ["package", "empty"] d
  if variant.name = "package" then return package (← variant.newtype (Package.read source))
  else
    variant.unit
    return empty

/-- The payload as a value. -/
def toJson : Payload → Json
  | package p => .object [("package", p.toJson)]
  | empty => .string "empty"

end Payload

end Findings
