/-
# Wallet.Network — chains

A chain is known by its id, which is compared as it is written.  The provider configuration
describes the active chain; the bridge form may have a second one picked as destination.
-/
import WalletView.Json.Record

set_option autoImplicit false

namespace WalletView

/-- The id of a chain, such as `0x1`. -/
structure ChainId where
  text : String
deriving DecidableEq, Repr, Inhabited

def ChainId.codec : Json.Codec ChainId :=
  Json.Codec.string.via .mk ChainId.text

/-- The configuration of a network. -/
structure ProviderConfig where
  chainId : ChainId
  kind : Option String
  nickname : Option String
  rpcUrl : Option String
  ticker : Option String
deriving DecidableEq, Repr, Inhabited

namespace ProviderConfig

/-- No network: the chain id is the empty text. -/
def empty : ProviderConfig := ⟨⟨""⟩, none, none, none, none⟩

def codec : Json.Codec ProviderConfig :=
  .record "ProviderConfig"
    (.cons (.required "chainId" ChainId.codec) <|
     .cons (.optional "type" .string) <|
     .cons (.optional "nickname" .string) <|
     .cons (.optional "rpcUrl" .string) <|
     .cons (.optional "ticker" .string) .nil)
    (fun (chainId, kind, nickname, rpcUrl, ticker, ()) =>
      { chainId, kind, nickname, rpcUrl, ticker })
    (fun p => (p.chainId, p.kind, p.nickname, p.rpcUrl, p.ticker, ()))

end ProviderConfig

/-- The state of the bridge form. -/
structure BridgeState where
  toChain : Option ProviderConfig
deriving DecidableEq, Repr, Inhabited

def BridgeState.codec : Json.Codec BridgeState :=
  .record "BridgeState"
    (.cons (.nullable "toChain" ProviderConfig.codec) .nil)
    (fun (toChain, ()) => { toChain })
    (fun b => (b.toChain, ()))

end WalletView
