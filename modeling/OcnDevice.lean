import OcnDevice.Core.LinkedChain
import OcnDevice.Core.SingleChain
import OcnDevice.Core.SlotSet
import OcnDevice.Core.HashChain
import OcnDevice.Core.Run
import OcnDevice.Core.Loop
import OcnDevice.Core.HandleTable
import OcnDevice.Core.Bank
import OcnDevice.IpaNat.Table
import OcnDevice.IpaNat.Hash
import OcnDevice.IpaNat.AddRule
import OcnDevice.IpaNat.DelRule
import OcnDevice.IpaNat.Create
import OcnDevice.IpaNat.Effect.Dma
import OcnDevice.IpaNat.Effect.Add
import OcnDevice.IpaNat.Effect.Del
import OcnDevice.IpaNat.Generate
import OcnDevice.IpaNat.MainTable
import OcnDevice.IpaNat.Runs
import OcnDevice.IpaNat.MainChains
import OcnDevice.IpaNat.IndexTable
import OcnDevice.IpaNat.TableRuns
import OcnDevice.Ipacm.CmdQueue
import OcnDevice.Ipacm.EvtDispatcher
import OcnDevice.Ipacm.IfaceManager.Model
import OcnDevice.Ipacm.IfaceManager.Dispatch
import OcnDevice.Ipacm.IfaceManager.LifeCycle
import OcnDevice.Ipacm.RmDepend
import OcnDevice.Ipacm.OffloadManager.Model
import OcnDevice.Ipacm.OffloadManager.Upstream
import OcnDevice.Ipacm.OffloadManager.Deferred
import OcnDevice.Ipacm.OffloadManager.Transparent
import OcnDevice.Ipacm.NatApp.Driver
import OcnDevice.Ipacm.NatApp.Model
import OcnDevice.Ipacm.NatApp.Moves
import OcnDevice.Ipacm.NatApp.CacheSet
import OcnDevice.Ipacm.NatApp.Rules
import OcnDevice.Ipacm.NatApp.PowerSave
import OcnDevice.Ipacm.NatApp.Survive
import OcnDevice.Ipacm.NatApp.Stale
import OcnDevice.Ipacm.ConntrackListener.Model
import OcnDevice.Ipacm.ConntrackListener.AddressTables
import OcnDevice.Ipacm.ConntrackListener.KeyAgreement
import OcnDevice.Ipacm.LanToLan.Model
import OcnDevice.Ipacm.LanToLan.Records
import OcnDevice.Ipacm.LanToLan.Fill
import OcnDevice.Ipacm.LanToLan.Lists
import OcnDevice.Ipacm.LanToLan.Clients
import OcnDevice.Ipacm.LanToLan.Links
import OcnDevice.Ipacm.LanToLan.IfaceUp
import OcnDevice.Ipacm.LanToLan.IfaceDown
import OcnDevice.Ipacm.LanToLan.Exact
import OcnDevice.Ipacm.LanToLan.Order
import OcnDevice.Ipacm.PrivateSubnet.Model
import OcnDevice.Ipacm.PrivateSubnet.Follows
import OcnDevice.Core.Separated
import OcnDevice.Gps.Agps.Machine
import OcnDevice.Gps.LocHeap
import OcnDevice.Gps.Agps.BaseMachine
import OcnDevice.Gps.Agps.Manager
import OcnDevice.Gps.Agps.Released
import OcnDevice.Gps.Agps.DsPending
import OcnDevice.Gps.Agps.OneMachine
import OcnDevice.Gps.Agps.Relink
import OcnDevice.Gps.Agps.Restart
import OcnDevice.Core.SetAlgorithms
import OcnDevice.Gps.Observer.Framework
import OcnDevice.Gps.Timer.Armed
import OcnDevice.Gps.Timer.Early
import OcnDevice.Gps.Timer.NoneLost
import OcnDevice.Bluetooth.A2dp.Acks
import OcnDevice.Bluetooth.A2dp.Results
import OcnDevice.Gps.Location.Api
import OcnDevice.Gps.Location.BiDict
import OcnDevice.Gps.Location.Client
import OcnDevice.Gps.Location.Responses
import OcnDevice.Gps.Ni.Model
import OcnDevice.Gps.Ni.Unmixed
import OcnDevice.Gps.Observer.Late
import OcnDevice.Gps.Tracking.Effect
import OcnDevice.Gps.Tracking.Interval
import OcnDevice.Gps.Tracking.Mode
import OcnDevice.Gps.Tracking.Removed
import OcnDevice.Power.InteractionHandler
import OcnDevice.Bluetooth.A2dp.LockDiscipline
import OcnDevice.Core.OnesComplement
import OcnDevice.Core.Records
import OcnDevice.Gps.LocThread.Counted
import OcnDevice.Gps.LocThread.LifeCycle
import OcnDevice.IpaNat.Checksum
import OcnDevice.IpaNat.Geometry
import OcnDevice.Ipacm.NatApp.Temporary
import OcnDevice.Ipacm.Netlink.Independent
import OcnDevice.Ipacm.UplinkFilter
import OcnDevice.Ipacm.WlanClients.Headers
import OcnDevice.Ipacm.WlanClients.Names
import OcnDevice.Ipacm.WlanClients.Slots
import OcnDevice.Core.Alignment
import OcnDevice.Core.CString
import OcnDevice.Core.Slots
import OcnDevice.Gps.LocCfg.Load
import OcnDevice.Gps.Nmea.Records
import OcnDevice.Gps.Nmea.Status
import OcnDevice.Gps.Observer.Items
import OcnDevice.Gps.Observer.Notify
import OcnDevice.Gps.Observer.TurnOn
import OcnDevice.Gps.Timer.Delay
import OcnDevice.Gps.Timer.Disarm
import OcnDevice.Ipacm.NatIfaces
import OcnDevice.Ipacm.Neighbor.Cache
import OcnDevice.Ipacm.WlanRules.Books
import OcnDevice.Ipacm.WlanRules.Switch
import OcnDevice.Ipacm.WlanRules.Clients
import OcnDevice.Ipacm.WlanRules.Follow
import OcnDevice.Gps.Location.Control
import OcnDevice.Gps.Location.GeofenceBooks
import OcnDevice.Gps.Location.Geofences
import OcnDevice.Gps.Gnss.UpdateConfig
import OcnDevice.IpaCfg.PrefixParser
import OcnDevice.Bluetooth.A2dp.Codec
import OcnDevice.Gps.LocNmea.Gsa
import OcnDevice.Gps.LocNmea.Gsv
import OcnDevice.Gps.LocNmea.UsedInFix
import OcnDevice.Gps.MiscUtils
import OcnDevice.Gps.LinkedList
import OcnDevice.Gps.MsgQueue
import OcnDevice.Ipacm.Netlink.Routes
import OcnDevice.Ipacm.Netlink.Reads
import OcnDevice.Bluetooth.A2dp.CodecConfig
import OcnDevice.IpaNat.HandleMap
import OcnDevice.IpaNat.IndexRuns
import OcnDevice.IpaNat.LifeCycle
import OcnDevice.IpaNat.Addressing
import OcnDevice.Ipacm.WlanPowerSave.Follows
import OcnDevice.Power.Restart
import OcnDevice.Ipacm.WanRoutes.Runs
import OcnDevice.Ipacm.LanUplink.Runs
