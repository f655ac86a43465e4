/-
# Wallet.Settings — preferences, feature flags and the active tab
-/
import WalletView.Wallet.Approval

set_option autoImplicit false

namespace WalletView

/-- What the user has chosen. -/
structure Preferences where
  redesignedConfirmationsEnabled : Bool
deriving DecidableEq, Repr, Inhabited

def Preferences.codec : Json.Codec Preferences :=
  .record "Preferences"
    (.cons (.withDefault "redesignedConfirmationsEnabled" .boolean false) .nil)
    (fun (redesignedConfirmationsEnabled, ()) => { redesignedConfirmationsEnabled })
    (fun p => (p.redesignedConfirmationsEnabled, ()))

/-- The flags of the bridge. -/
structure BridgeFeatureFlags where
  extensionSupport : Bool
deriving DecidableEq, Repr, Inhabited

def BridgeFeatureFlags.codec : Json.Codec BridgeFeatureFlags :=
  .record "BridgeFeatureFlags"
    (.cons (.withDefault "extensionSupport" .boolean false) .nil)
    (fun (extensionSupport, ()) => { extensionSupport })
    (fun f => (f.extensionSupport, ()))

/-- Switches set when the wallet is built, or from afar. -/
structure FeatureFlags where
  /-- Whether transactions may be confirmed in the redesigned way. -/
  isRedesignedConfirmationsFeatureEnabled : Bool
  /-- Whether services of third parties may be called. -/
  useExternalServices : Bool
  bridgeFeatureFlags : BridgeFeatureFlags
deriving DecidableEq, Repr, Inhabited

namespace FeatureFlags

def off : FeatureFlags := ⟨false, false, ⟨false⟩⟩

def codec : Json.Codec FeatureFlags :=
  .record "FeatureFlags"
    (.cons (.withDefault "isRedesignedConfirmationsFeatureEnabled" .boolean false) <|
     .cons (.withDefault "useExternalServices" .boolean false) <|
     .cons (.withDefault "bridgeFeatureFlags" BridgeFeatureFlags.codec ⟨false⟩) .nil)
    (fun (isRedesignedConfirmationsFeatureEnabled, useExternalServices, bridgeFeatureFlags, ()) =>
      { isRedesignedConfirmationsFeatureEnabled, useExternalServices, bridgeFeatureFlags })
    (fun f =>
      (f.isRedesignedConfirmationsFeatureEnabled, f.useExternalServices, f.bridgeFeatureFlags, ()))

end FeatureFlags

/-- The browser tab from which the wallet was opened. -/
structure ActiveTab where
  origin : Option Origin
  title : Option String
  url : Option String
  protocol : Option String
deriving DecidableEq, Repr, Inhabited

namespace ActiveTab

def empty : ActiveTab := ⟨none, none, none, none⟩

def codec : Json.Codec ActiveTab :=
  .record "ActiveTab"
    (.cons (.nullable "origin" .string) <|
     .cons (.optional "title" .string) <|
     .cons (.optional "url" .string) <|
     .cons (.optional "protocol" .string) .nil)
    (fun (origin, title, url, protocol, ()) => { origin, title, url, protocol })
    (fun t => (t.origin, t.title, t.url, t.protocol, ()))

end ActiveTab

end WalletView
