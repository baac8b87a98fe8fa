import RegistryStorage.Fault
import RegistryStorage.Files.Content
import RegistryStorage.Json.Value

/-!
The cluster's infrastructure.

The infrastructure file tells the program about the cluster: its name, from which new names
are made, the cloud it runs in, and the tags that its owner wants on everything created for
it. The program only reads it.
-/

set_option autoImplicit false

namespace RegistryStorage

open Json (Tree Value)

/-- The tags of a resource. -/
abbrev Tags := Dict String String

/-- What the platform says about the cluster. -/
structure PlatformStatus where
  cloud : String := ""
  resourceGroup : String := ""
  tags : Tags := {}
deriving DecidableEq, Inhabited

/-- What is known about the cluster. -/
structure Infrastructure where
  name : String := ""
  platform : Option PlatformStatus := none
deriving DecidableEq, Inhabited

/-- Encoded tags. -/
def Tags.encode (tags : Tags) : Value := .object (tags.toList.map fun e => (e.1, .text e.2))

/-- Reads tags; the last value of a tag counts. -/
def Tags.decode? : Tree → Option Tags
  | .object members => do
    return Dict.ofList (← members.mapM fun m => do return (← m.1, ← m.2.text?))
  | _ => none

namespace PlatformStatus

/-- The encoded platform status. -/
def encode (p : PlatformStatus) : Value :=
  .object [("cloudName", .text p.cloud), ("resourceGroupName", .text p.resourceGroup),
    ("resourceTags", p.tags.encode)]

/-- Reads a platform status. -/
def decode? (t : Tree) : Option PlatformStatus := do
  match ← t.fields ["cloudName", "resourceGroupName", "resourceTags"] with
  | [cloud, group, tags] =>
    return {
      cloud := ← Tree.orDefault Tree.text? "" cloud
      resourceGroup := ← Tree.orDefault Tree.text? "" group
      tags := ← Tree.orDefault Tags.decode? {} tags }
  | _ => none

end PlatformStatus

namespace Infrastructure

/-- The encoded infrastructure. -/
def encode (i : Infrastructure) : Value :=
  .object ([("infrastructureName", .text i.name)] ++
    (match i.platform with
     | some p => [("azure", p.encode)]
     | none => []))

/-- Reads an infrastructure. -/
def decode? (t : Tree) : Option Infrastructure := do
  match ← t.fields ["infrastructureName", "azure"] with
  | [name, platform] =>
    return {
      name := ← Tree.orDefault Tree.text? "" name
      platform := ← Tree.orDefault (Tree.option? PlatformStatus.decode?) none platform }
  | _ => none

/-- The infrastructure that a file's text holds. -/
def load? (text : String) : Option Infrastructure := do decode? (← Tree.read? text)

/-- The description that a file holds; there has to be a file. -/
def ofContent : Content → Except Fault Infrastructure
  | .missing => .error (.io Content.missingReason)
  | .unreadable reason => .error (.io reason)
  | .text text =>
    match load? text with
    | some i => .ok i
    | none => .error (.json "the description of the cluster cannot be read")

/-- The tags of everything created for the cluster: that the cluster owns it, and what its
owner asks for. -/
def tags (i : Infrastructure) : Tags :=
  let owned : Tags := Dict.empty.insert ("kubernetes.io_cluster." ++ i.name) "owned"
  match i.platform with
  | some p => owned.insertAll p.tags.toList
  | none => owned

end Infrastructure

end RegistryStorage
