/-
# Wallet.Permission — what sites may do, and what they have been shown

A subject is a site with the capabilities granted to it.  A capability can be restricted by
caveats; the caveat that matters here lists the addresses the site may see.  The history says
which addresses a site was shown under a capability, and when last.
-/
import WalletView.Wallet.Message

set_option autoImplicit false

namespace WalletView

/-- A restriction on a granted capability. -/
structure Caveat where
  kind : String
  value : Json
deriving Repr, Inhabited

namespace Caveat

/-- The texts in a caveat's list; a value that is no list has none. -/
def addresses (c : Caveat) : List Address :=
  (c.value.items?.getD []).filterMap Json.text?

def codec : Json.Codec Caveat :=
  .record "Caveat"
    (.cons (.required "type" .string) <|
     .cons (.withDefault "value" .any .null) .nil)
    (fun (kind, value, ()) => { kind, value })
    (fun c => (c.kind, c.value, ()))

end Caveat

/-- A capability granted to a site. -/
structure Permission where
  caveats : List Caveat
  date : UInt64
  id : String
  invoker : Origin
  parentCapability : String
deriving Repr, Inhabited

namespace Permission

/-- The first caveat of a kind. -/
def caveat? (p : Permission) (kind : String) : Option Caveat :=
  p.caveats.find? (·.kind == kind)

def codec : Json.Codec Permission :=
  .record "Permission"
    (.cons (.withDefault "caveats" Caveat.codec.list []) <|
     .cons (.withDefault "date" .word 0) <|
     .cons (.withDefault "id" .string "") <|
     .cons (.withDefault "invoker" .string "") <|
     .cons (.withDefault "parentCapability" .string "") .nil)
    (fun (caveats, date, id, invoker, parentCapability, ()) =>
      { caveats, date, id, invoker, parentCapability })
    (fun p => (p.caveats, p.date, p.id, p.invoker, p.parentCapability, ()))

end Permission

/-- A site and its capabilities. -/
structure Subject where
  origin : Option Origin
  permissions : SortedMap Permission
deriving Repr, Inhabited

def Subject.codec : Json.Codec Subject :=
  .record "Subject"
    (.cons (.optional "origin" .string) <|
     .cons (.withDefault "permissions" Permission.codec.sortedMap .empty) .nil)
    (fun (origin, permissions, ()) => { origin, permissions })
    (fun s => (s.origin, s.permissions, ()))

/-- How a site is shown. -/
structure SubjectMetadata where
  name : Option String
  iconUrl : Option String
  extensionId : Option String
deriving DecidableEq, Repr, Inhabited

def SubjectMetadata.codec : Json.Codec SubjectMetadata :=
  .record "SubjectMetadata"
    (.cons (.nullable "name" .string) <|
     .cons (.nullable "iconUrl" .string) <|
     .cons (.nullable "extensionId" .string) .nil)
    (fun (name, iconUrl, extensionId, ()) => { name, iconUrl, extensionId })
    (fun m => (m.name, m.iconUrl, m.extensionId, ()))

/-- What a site was shown under one capability. -/
structure PermissionHistoryEntry where
  /-- When each address was last shown. -/
  accounts : SortedMap UInt64
  lastApproved : Option UInt64
deriving DecidableEq, Repr, Inhabited

def PermissionHistoryEntry.codec : Json.Codec PermissionHistoryEntry :=
  .record "PermissionHistoryEntry"
    (.cons (.withDefault "accounts" (Json.Codec.sortedMap .word) .empty) <|
     .cons (.optional "lastApproved" .word) .nil)
    (fun (accounts, lastApproved, ()) => { accounts, lastApproved })
    (fun e => (e.accounts, e.lastApproved, ()))

/-- What each site was shown, by origin and capability. -/
abbrev PermissionHistory := SortedMap (SortedMap PermissionHistoryEntry)

def PermissionHistory.codec : Json.Codec PermissionHistory :=
  PermissionHistoryEntry.codec.sortedMap.sortedMap

end WalletView
