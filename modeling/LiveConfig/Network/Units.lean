import LiveConfig.LoadAttributes
import LiveConfig.Network.Basic
import LiveConfig.Resolution
import LiveConfig.Sources.Basic
import LiveConfig.Unit.Attachment

/-!
Contract: units at work in the network.

The watch of a unit goes when the unit goes. Owns: making, attaching and releasing units, and assembling
the units below a root path into a composite. If one unit of a composite fails, all are released.
-/

namespace LiveConfig.Network

def newUnit (network : Network) (client channel : Nat) (name path : String) (autoRefreshed : Bool)
    (format : Format) : ConfigUnit × Network :=
  (.fresh network.unitCount client channel name path autoRefreshed format,
    { network with unitCount := network.unitCount + 1 })

/-- Attaches a unit to its node over its client, and publishes what the unit tells of it. -/
def attach (unit : ConfigUnit) (network : Network) :
    Except ConfigError Unit × ConfigUnit × Network :=
  if network.isHeld unit.client then
    let (attached, after) := unit.attach (serve unit.client) network
    (attached.result, attached.unit, after.publish unit.channel attached.events)
  else (.error (.store (.closed "coordination client dropped")), unit, network)

/-- The network after a unit was let go of. -/
def release (network : Network) (unit : ConfigUnit) : Network :=
  match unit.watch with
  | none => network
  | some id =>
      if network.isHeld unit.client then
        network.setClient unit.client ((network.client unit.client).unwatch id).2
      else network

/-- The network after units were let go of. -/
def releaseAll (network : Network) (units : List ConfigUnit) : Network :=
  units.foldl release network

/-- The error of a composite one of whose units failed: errors of the store are told as such of the
enumeration. -/
def unitError (path : String) : ConfigError → ConfigError
  | .store error => .enumeration path error
  | error => error

/-- Attaches new units for the children of a root path in order, behind those that are attached. -/
def attachChildren (client channel : Nat) (attributes : LoadAttributes) :
    (children : List String) → (attached : List ConfigUnit) → Network →
      Except ConfigError (List ConfigUnit) × Network
  | [], attached, network => (.ok attached, network)
  | child :: rest, attached, network =>
      let path := Path.join attributes.rootPath child
      let (unit, grown) :=
        network.newUnit client channel path path attributes.autoRefreshed attributes.format
      match attach unit grown with
      | (.ok (), loaded, after) =>
          attachChildren client channel attributes rest (attached ++ [loaded]) after
      | (.error error, failed, after) =>
          (.error (unitError path error), after.releaseAll (attached ++ [failed]))

/-- Assembles the composite that attributes ask for over a client; none if there is no root. -/
def assemble (client : Nat) (attributes : LoadAttributes) (network : Network) :
    Except ConfigError (Option Composite) × Network :=
  match Resolution.resolve (serve client) attributes.rootPath attributes.autoRefreshed network with
  | (.error error, after) => (.error error, after)
  | (.ok .absent, after) => (.ok none, after)
  | (.ok (.present _ children), after) =>
      let (channel, opened) := after.openChannel Channel.unitCapacity
      match attachChildren client channel attributes children [] opened with
      | (.error error, final) => (.error error, final)
      | (.ok units, final) => (.ok (some ⟨attributes.effectiveName, units, channel⟩), final)

end LiveConfig.Network
