import Mathlib.Data.List.Basic

/-!
# Tunnels and their store

The data the view model works on: a stored tunnel, the state shown for the active one and
the repository behind `SharedPreferences`.  The JSON codec is not modelled: what `save`
stores is what `load` returns.
-/

namespace OpenFlux

/-- `Tunnel` -/
structure Tunnel where
  id : Int64
  name : String
  transportType : String
  transportConnPayload : List String
  encryptionKey : Option String := none
  deriving DecidableEq, Repr

/-- `TunnelState` and its cases -/
inductive TunnelState where
  | idle
  | connecting (tunnel : Tunnel)
  | startingTransport (tunnel : Tunnel)
  | startingTun2Socks (tunnel : Tunnel)
  | running (tunnel : Tunnel)
  | error (message : String)
  deriving DecidableEq, Repr

namespace TunnelState

/-- The tunnel that a state is about. -/
def tunnel : TunnelState → Option Tunnel
  | idle | error _ => none
  | connecting t | startingTransport t | startingTun2Socks t | running t => some t

/-- A tunnel is up or is being brought up. -/
def isActive : TunnelState → Bool
  | idle | error _ => false
  | connecting _ | startingTransport _ | startingTun2Socks _ | running _ => true

end TunnelState

/-- The two preferences of `TunnelRepository`; `-1` stands for "nothing selected". -/
structure TunnelRepository where
  tunnels : List Tunnel := []
  selectedId : Int64 := -1
  deriving DecidableEq, Repr

namespace TunnelRepository

/-- `save(tunnels)` -/
def save (repo : TunnelRepository) (tunnels : List Tunnel) : TunnelRepository :=
  { repo with tunnels }

/-- `getSelectedId()` -/
def getSelectedId (repo : TunnelRepository) : Option Int64 :=
  if repo.selectedId = -1 then none else some repo.selectedId

/-- `setSelectedId(id)` -/
def setSelectedId (repo : TunnelRepository) (id : Int64) : TunnelRepository :=
  { repo with selectedId := id }

/-- The selected tunnel, else the first one, else `none`. -/
def getSelected (repo : TunnelRepository) : Option Tunnel :=
  (repo.tunnels.find? fun t => some t.id == repo.getSelectedId) <|> repo.tunnels.head?

end TunnelRepository

end OpenFlux
