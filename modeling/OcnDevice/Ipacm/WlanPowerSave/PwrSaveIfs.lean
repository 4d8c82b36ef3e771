import OcnDevice.Core.SlotSet
import OcnDevice.Ipacm.ConntrackListener.AddressTables
import OcnDevice.Ipacm.NatApp.Moves
import OcnDevice.Ipacm.WlanPowerSave.Model

/-!
# The list of addresses in power save

`PwrSaveIfs` as a set of addresses: an address is added by a client that goes to sleep, provided
that there is room, and taken off by one that is back or gone.  The listener takes an address off
just if it has it in its table of addresses of NAT interfaces (`Knows`).
-/

namespace Ipacm.Wlan

open SlotSet

/-- The listener has the address in its table of addresses of NAT interfaces. -/
def Knows (ct : CtSys) (ip : UInt32) : Prop :=
  ∃ cnt < maxIfaceAddress, ct.list.natIfaceIpv4Addr cnt = ip

variable {s : NatSys} {ct : CtSys} {S : Set UInt32} {ip : UInt32} {k : ℕ}

/-- The address that the list loses when a client leaves: its own, if the listener has it. -/
def Leaves (ct : CtSys) (c : WlanClient) : Set UInt32 :=
  {ip | c.ipv4Set = true ∧ c.v4Addr = ip ∧ Knows ct ip}

end Ipacm.Wlan
