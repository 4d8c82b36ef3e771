import OcnDevice.Core.SetAlgorithms

/-!
# The OS observer and its two indexes

Clients tell `SystemStatusOsObserver` which data items they want, and it tells the framework.
Who wants what is written down twice, in `ClientIndex` by client and in `DataItemIndex` by data
item.  An operation only posts a message; `proc` is what the message thread does with one, and
all the work on the indexes is there.  As long as there is no subscription object, `subscribe`
and `requestData` keep their request for later and the other operations do nothing.

Clients are pointers and data items numbers of an enumeration; both are any linear order here,
and the lists that clients pass may hold an item twice and in any order.  Of a data item only its
identity is kept, and of the cache which items it has.
-/

open scoped SetAlgorithms

namespace Gps.Observer

variable {CT DIT : Type*} [LinearOrder CT] [LinearOrder DIT]

/-! ## The indexes -/

/-- `mDataItemsPerClientMap`. -/
abbrev ClientIndex (CT DIT : Type*) : Type _ := ListMap CT DIT

/-- `mClientsPerDataItemMap`. -/
abbrev DataItemIndex (CT DIT : Type*) : Type _ := ListMap DIT CT

namespace ClientIndex

variable (x : ClientIndex CT DIT) (client : CT)

/-- `isSubscribedClient`. -/
def isSubscribedClient : Bool := (x.lookup client).isSome

/-- `getSubscribedList`. -/
def getSubscribedList : List DIT := x.listOf client

/-- `remove (client)`.  The result is always zero. -/
def remove : ClientIndex CT DIT × ℤ := (x.erase client, 0)

/-- `remove (client, r, out)`. -/
def removeItems (r : List DIT) : ClientIndex CT DIT × List DIT := x.removeFound client r

/-- `add (client, l, out)`. -/
def add (l : List DIT) : ClientIndex CT DIT × List DIT := x.addSorted client l

end ClientIndex

namespace DataItemIndex

variable (x : DataItemIndex CT DIT) (id : DIT)

/-- `getListOfSubscribedClients`. -/
def getListOfSubscribedClients : List CT := x.listOf id

/-- `remove (r, out)`: the clients leave the list of every data item, in the order of the items,
and the items that nobody is left for are returned. -/
def removeClients (r : List CT) : DataItemIndex CT DIT × List DIT :=
  (x.keys.insertionSort (· ≤ ·)).foldl (fun p id =>
    let left := (p.1.listOf id).diff r
    if left = [] then (p.1.erase id, p.2 ++ [id]) else (p.1.insert id left, p.2)) (x, [])

/-- `remove (id, r, out)`. -/
def removeFrom (r : List CT) : DataItemIndex CT DIT × List CT := x.removeFound id r

/-- One pass of `add`. -/
def addPass (client : CT) (p : DataItemIndex CT DIT × List DIT) (id : DIT) :
    DataItemIndex CT DIT × List DIT :=
  match p.1.lookup id with
  | none => (p.1.insert id [client], p.2 ++ [id])
  | some clients => (if client ∈ clients then p.1 else p.1.insert id (clients ++ [client]), p.2)

/-- `add (client, l, out)`: the data items that were not there before are returned. -/
def add (client : CT) (l : List DIT) : DataItemIndex CT DIT × List DIT :=
  l.foldl (addPass client) (x, [])

end DataItemIndex

/-! ## Messages -/

/-- The messages, under the names of their structures.  A data item of `HandleNotify` comes with
what copying it to the cached one reports as changed. -/
inductive Msg (CT DIT : Type*)
  | handleSubscribeReq (l : List DIT) (client : CT)
  | handleUpdateSubscriptionReq (l : List DIT) (client : CT)
  | handleRequestData (l : List DIT) (client : CT)
  | handleUnsubscribeReq (l : List DIT) (client : CT)
  | handleUnsubscribeAllReq (client : CT)
  | handleNotify (dlist : List (DIT × Bool))
  deriving DecidableEq

/-- What is called: the subscription object of the framework, and clients. -/
inductive Call (CT DIT : Type*)
  | subscribe (l : List DIT)
  | unsubscribe (l : List DIT)
  | requestData (l : List DIT)
  | notify (client : CT) (dataItems : List DIT)
  deriving DecidableEq

/-- The indexes and the cache. -/
structure SystemStatusOsObserver (CT DIT : Type*) where
  mClientIndex : ClientIndex CT DIT
  mDataItemIndex : DataItemIndex CT DIT
  mDataItemCache : List DIT

namespace SystemStatusOsObserver

variable (s : SystemStatusOsObserver CT DIT) (l : List DIT) (client : CT)

/-- `sendFirstResponse`: what the cache has of the items, if it has any. -/
def sendFirstResponse : List (Call CT DIT) :=
  let dataItems := l.filter (· ∈ s.mDataItemCache)
  if dataItems = [] then [] else [.notify client dataItems]

/-- `sendCachedDataItems`: the client is called even with no item. -/
def sendCachedDataItems : List (Call CT DIT) := [.notify client l]

/-- The calls that are only made for a list with items. -/
def unlessEmpty (call : List DIT → Call CT DIT) : List (Call CT DIT) :=
  if l = [] then [] else [call l]

/-- `updateCache`: the cache afterwards, and whether the item is new there or has changed. -/
def updateCache (cache : List DIT) (d : DIT × Bool) : List DIT × Bool :=
  if d.1 ∈ cache then (cache, d.2) else (d.1 :: cache, true)

/-- `HandleSubscribeReq::proc`. -/
def handleSubscribeReq : SystemStatusOsObserver CT DIT × List (Call CT DIT) :=
  if l = [] then (s, [])
  else
    let yetToSubscribe := s.mDataItemIndex.add client l
    ({ s with
        mClientIndex := (s.mClientIndex.add client l).1
        mDataItemIndex := yetToSubscribe.1 },
      s.sendFirstResponse l client ++ unlessEmpty yetToSubscribe.2 .subscribe)

/-- `HandleUpdateSubscriptionReq::proc`. -/
def handleUpdateSubscriptionReq : SystemStatusOsObserver CT DIT × List (Call CT DIT) :=
  if l = [] then (s, [])
  else
    let removeDataItemList := setDifference (s.mClientIndex.getSubscribedList client) l
    let pendingFirstResponse := s.mClientIndex.add client l
    let yetToSubscribe := s.mDataItemIndex.add client l
    let clientIndex := (pendingFirstResponse.1.removeItems client removeDataItemList).1
    let unsubscribe := if clientIndex.isSubscribedClient client then (yetToSubscribe.1, [])
      else yetToSubscribe.1.removeClients [client]
    ({ s with mClientIndex := clientIndex, mDataItemIndex := unsubscribe.1 },
      s.sendFirstResponse pendingFirstResponse.2 client ++
        unlessEmpty yetToSubscribe.2 .subscribe ++ unlessEmpty unsubscribe.2 .unsubscribe)

/-- `HandleRequestData::proc`. -/
def handleRequestData : SystemStatusOsObserver CT DIT × List (Call CT DIT) :=
  if l = [] then (s, [])
  else
    ({ s with
        mClientIndex := (s.mClientIndex.add client l).1
        mDataItemIndex := (s.mDataItemIndex.add client l).1 },
      [.requestData l])

/-- One pass of `HandleUnsubscribeReq::proc`. -/
def unsubscribePass (p : DataItemIndex CT DIT × List DIT) (each : DIT) :
    DataItemIndex CT DIT × List DIT :=
  let dataItemIndex := (p.1.removeFrom each [client]).1
  (dataItemIndex,
    if dataItemIndex.getListOfSubscribedClients each = [] then p.2 ++ [each] else p.2)

/-- `HandleUnsubscribeReq::proc`. -/
def handleUnsubscribeReq : SystemStatusOsObserver CT DIT × List (Call CT DIT) :=
  if l = [] then (s, [])
  else
    let unsubscribe := l.foldl (unsubscribePass client) (s.mDataItemIndex, [])
    ({ s with
        mClientIndex := (s.mClientIndex.removeItems client l).1
        mDataItemIndex := unsubscribe.1 },
      unlessEmpty unsubscribe.2 .unsubscribe)

/-- `HandleUnsubscribeAllReq::proc`. -/
def handleUnsubscribeAllReq : SystemStatusOsObserver CT DIT × List (Call CT DIT) :=
  let removed := s.mClientIndex.remove client
  if removed.2 = 0 then ({ s with mClientIndex := removed.1 }, [])
  else
    let unsubscribe := s.mDataItemIndex.removeClients [client]
    ({ s with mClientIndex := removed.1, mDataItemIndex := unsubscribe.1 },
      unlessEmpty unsubscribe.2 .unsubscribe)

/-- The first loop of `HandleNotify::proc`: the cache, and the items to be sent. -/
def updateAll (dlist : List (DIT × Bool)) : List DIT × List DIT :=
  dlist.foldl (fun p item =>
    let updated := updateCache p.1 item
    (updated.1, if updated.2 then p.2 ++ [item.1] else p.2)) (s.mDataItemCache, [])

/-- `HandleNotify::proc`. -/
def handleNotify (dlist : List (DIT × Bool)) :
    SystemStatusOsObserver CT DIT × List (Call CT DIT) :=
  let updated := s.updateAll dlist
  let toBeSent := updated.2.insertionSort (· ≤ ·)
  let clientList :=
    (updated.2.flatMap s.mDataItemIndex.getListOfSubscribedClients).destutter (· ≠ ·)
  ({ s with mDataItemCache := updated.1 },
    clientList.flatMap fun client =>
      sendCachedDataItems (setIntersection toBeSent
        ((s.mClientIndex.getSubscribedList client).insertionSort (· ≤ ·))) client)

/-- `proc` of a message. -/
def proc : Msg CT DIT → SystemStatusOsObserver CT DIT × List (Call CT DIT)
  | .handleSubscribeReq l client => s.handleSubscribeReq l client
  | .handleUpdateSubscriptionReq l client => s.handleUpdateSubscriptionReq l client
  | .handleRequestData l client => s.handleRequestData l client
  | .handleUnsubscribeReq l client => s.handleUnsubscribeReq l client
  | .handleUnsubscribeAllReq client => s.handleUnsubscribeAllReq client
  | .handleNotify dlist => s.handleNotify dlist

end SystemStatusOsObserver

/-! ## Operations and runs -/

/-- The public operations. -/
inductive Op (CT DIT : Type*)
  | setSubscriptionObj
  | subscribe (l : List DIT) (client : CT)
  | updateSubscription (l : List DIT) (client : CT)
  | requestData (l : List DIT) (client : CT)
  | unsubscribe (l : List DIT) (client : CT)
  | unsubscribeAll (client : CT)
  | notify (dlist : List (DIT × Bool))
  deriving DecidableEq

/-- The observer with its requests that wait for the subscription object, and the messages that
wait for the message thread. -/
structure ObserverSys (CT DIT : Type*) extends SystemStatusOsObserver CT DIT where
  mSubscriptionObj : Bool
  mSubscribeReqCache : ListMap CT DIT
  mReqDataCache : ListMap CT DIT
  msgs : List (Msg CT DIT)

namespace ObserverSys

/-- A new observer. -/
def init : ObserverSys CT DIT where
  mClientIndex := ∅
  mDataItemIndex := ∅
  mDataItemCache := []
  mSubscriptionObj := false
  mSubscribeReqCache := ∅
  mReqDataCache := ∅
  msgs := []

variable (s : ObserverSys CT DIT)

/-- `sendMsg`. -/
def sendMsg (msg : Msg CT DIT) : ObserverSys CT DIT := { s with msgs := s.msgs ++ [msg] }

/-- `cacheObserverRequest`. -/
def cacheObserverRequest (reqCache : ListMap CT DIT) (l : List DIT) (client : CT) :
    ListMap CT DIT :=
  (reqCache.addSorted client l).1

/-- The requests of a cache, in the order of the clients. -/
def cached (reqCache : ListMap CT DIT) (msg : List DIT → CT → Msg CT DIT) : List (Msg CT DIT) :=
  (reqCache.keys.insertionSort (· ≤ ·)).map fun client => msg (reqCache.listOf client) client

/-- An operation. -/
def call : Op CT DIT → ObserverSys CT DIT
  | .setSubscriptionObj =>
      { s with
        mSubscriptionObj := true
        msgs := s.msgs ++ cached s.mSubscribeReqCache .handleSubscribeReq ++
          cached s.mReqDataCache .handleRequestData }
  | .subscribe l client =>
      if s.mSubscriptionObj then s.sendMsg (.handleSubscribeReq l client)
      else { s with mSubscribeReqCache := cacheObserverRequest s.mSubscribeReqCache l client }
  | .updateSubscription l client =>
      if s.mSubscriptionObj then s.sendMsg (.handleUpdateSubscriptionReq l client) else s
  | .requestData l client =>
      if s.mSubscriptionObj then s.sendMsg (.handleRequestData l client)
      else { s with mReqDataCache := cacheObserverRequest s.mReqDataCache l client }
  | .unsubscribe l client =>
      if s.mSubscriptionObj then s.sendMsg (.handleUnsubscribeReq l client) else s
  | .unsubscribeAll client =>
      if s.mSubscriptionObj then s.sendMsg (.handleUnsubscribeAllReq client) else s
  | .notify dlist => s.sendMsg (.handleNotify dlist)

end ObserverSys

/-- What happens: some thread calls an operation, or the message thread processes the next
message, which makes calls. -/
inductive Action (CT DIT : Type*)
  | call (op : Op CT DIT)
  | proc (msg : Msg CT DIT) (calls : List (Call CT DIT))
  deriving DecidableEq

/-- One step of the observer. -/
inductive ObserverSys.Step (s : ObserverSys CT DIT) : Action CT DIT → ObserverSys CT DIT → Prop
  | call (op : Op CT DIT) : s.Step (.call op) (s.call op)
  | proc {msg : Msg CT DIT} {rest : List (Msg CT DIT)} (h : s.msgs = msg :: rest) :
      s.Step (.proc msg (s.toSystemStatusOsObserver.proc msg).2)
        { s with
          toSystemStatusOsObserver := (s.toSystemStatusOsObserver.proc msg).1
          msgs := rest }

/-- Calling an operation touches neither the indexes nor the cache. -/
@[simp] lemma ObserverSys.call_observer {s : ObserverSys CT DIT} {op : Op CT DIT} :
    (s.call op).toSystemStatusOsObserver = s.toSystemStatusOsObserver := by
  cases op <;> simp only [call, sendMsg] <;> split_ifs <;> rfl

/-- The next step: an operation is called, or the message thread goes on. -/
def ObserverSys.next (s : ObserverSys CT DIT) :
    Option (Op CT DIT) → Option (ObserverSys CT DIT × Action CT DIT)
  | some op => some (s.call op, .call op)
  | none =>
      match s.msgs with
      | [] => none
      | msg :: rest =>
          some ({ s with
            toSystemStatusOsObserver := (s.toSystemStatusOsObserver.proc msg).1
            msgs := rest }, .proc msg (s.toSystemStatusOsObserver.proc msg).2)

lemma ObserverSys.step_of_next {s : ObserverSys CT DIT} {p : Option (Op CT DIT)}
    {q : ObserverSys CT DIT × Action CT DIT} (h : s.next p = some q) : s.Step q.2 q.1 := by
  cases p with
  | some op =>
      cases h
      exact .call op
  | none =>
      simp only [next] at h
      split at h
      · cases h
      · rename_i msg rest hmsgs
        cases h
        exact .proc hmsgs

end Gps.Observer
