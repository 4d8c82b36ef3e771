import OcnDevice.Core.Run

/-!
# Dependencies of the resource manager

`IPACM_Config` keeps a table of pairs of pipes.  While both pipes of an entry are up, each of the two
producers depends on the other one's consumer, unless the first producer bypasses IPA; the
dependencies are registered with the kernel.  `AddRmDepend` and `DelRmDepend` are told which resource
came up or went down.  The consumer of the modem, `Q6_CONS`, comes up once for each default route.

The kernel carries out every ioctl, and `ok` records whether a dependency was ever added twice or
deleted while it was absent.
-/

namespace Ipacm

/-- An `ipa_rm_resource_name`; `other` are those that the table does not mention. -/
inductive RmResource
  | wlanProd
  | usbProd
  | oduAdaptProd
  | q6Prod
  | wlanCons
  | usbCons
  | oduAdaptCons
  | q6Cons
  | other (n : ℕ)
  deriving DecidableEq, Repr

/-- A dependency: the resource, and the one it depends on. -/
abbrev RmDep := RmResource × RmResource

/-- The dependencies that are registered with the kernel. -/
structure RmKernel where
  deps : List RmDep := []
  ok : Bool := true

/-- `IPA_IOC_RM_ADD_DEPENDENCY`. -/
def RmKernel.add (k : RmKernel) (d : RmDep) : RmKernel where
  deps := d :: k.deps
  ok := k.ok && d ∉ k.deps

/-- `IPA_IOC_RM_DEL_DEPENDENCY`. -/
def RmKernel.del (k : RmKernel) (d : RmDep) : RmKernel where
  deps := k.deps.erase d
  ok := k.ok && d ∈ k.deps

/-- An `ipa_rm_client`: an entry of the table. -/
structure RmClient where
  producerRm1 : RmResource
  consumerRm1 : RmResource
  producerRm2 : RmResource
  consumerRm2 : RmResource
  producer1Up : Bool := false
  consumer1Up : Bool := false
  rmSet : Bool := false
  rxBypassIpa : Bool := false
  deriving DecidableEq, Repr

namespace RmClient

/-- `producer_rm1` depends on `consumer_rm1`. -/
def dep1 (e : RmClient) : RmDep := (e.producerRm1, e.consumerRm1)

/-- `producer_rm2` depends on `consumer_rm2`. -/
def dep2 (e : RmClient) : RmDep := (e.producerRm2, e.consumerRm2)

/-- Add the dependencies of an entry. -/
def setup (e : RmClient) (k : RmKernel) : RmClient × RmKernel :=
  ({ e with rmSet := true }, (if e.rxBypassIpa then k else k.add e.dep1).add e.dep2)

/-- Delete the dependencies of an entry. -/
def teardown (e : RmClient) (k : RmKernel) : RmClient × RmKernel :=
  ({ e with rmSet := false }, (if e.rxBypassIpa then k else k.del e.dep1).del e.dep2)

/-- The first half of a pass of `AddRmDepend`. -/
def addProducer (rm1 : RmResource) (rxBypassIpa : Bool) (e : RmClient) (k : RmKernel) :
    RmClient × RmKernel :=
  if rm1 = e.producerRm1 then
    let e := { e with producer1Up := true, rxBypassIpa }
    if e.consumer1Up = true ∧ e.rmSet = false then e.setup k else (e, k)
  else (e, k)

/-- The second half of a pass of `AddRmDepend`. -/
def addConsumer (rm1 : RmResource) (e : RmClient) (k : RmKernel) : RmClient × RmKernel :=
  if rm1 = e.consumerRm1 then
    let e := { e with consumer1Up := true }
    if e.producer1Up = true ∧ e.rmSet = false then e.setup k else (e, k)
  else (e, k)

/-- One pass of the loop of `AddRmDepend`. -/
def addRm (rm1 : RmResource) (rxBypassIpa : Bool) (e : RmClient) (k : RmKernel) :
    RmClient × RmKernel :=
  let r := e.addProducer rm1 rxBypassIpa k
  r.1.addConsumer rm1 r.2

/-- The first half of a pass of `DelRmDepend`. -/
def delProducer (rm1 : RmResource) (e : RmClient) (k : RmKernel) : RmClient × RmKernel :=
  if rm1 = e.producerRm1 then
    let r := if e.rmSet = true then e.teardown k else (e, k)
    ({ r.1 with producer1Up := false, rxBypassIpa := false }, r.2)
  else (e, k)

/-- The second half of a pass of `DelRmDepend`. -/
def delConsumer (rm1 : RmResource) (ipaRmA2Check : ℤ) (e : RmClient) (k : RmKernel) :
    RmClient × RmKernel :=
  if rm1 = e.consumerRm1 then
    if e.consumerRm1 = .q6Cons ∧ ipaRmA2Check = 1 then (e, k)
    else
      let r := if e.rmSet = true then e.teardown k else (e, k)
      ({ r.1 with consumer1Up := false }, r.2)
  else (e, k)

/-- One pass of the loop of `DelRmDepend`. -/
def delRm (rm1 : RmResource) (ipaRmA2Check : ℤ) (e : RmClient) (k : RmKernel) :
    RmClient × RmKernel :=
  let r := e.delProducer rm1 k
  r.1.delConsumer rm1 ipaRmA2Check r.2

end RmClient

/-- Run a pass for each entry of the table. -/
def forEntries (body : RmClient → RmKernel → RmClient × RmKernel) :
    List RmClient → RmKernel → List RmClient × RmKernel
  | [], k => ([], k)
  | e :: tbl, k =>
      let r := body e k
      let rest := forEntries body tbl r.2
      (r.1 :: rest.1, rest.2)

/-- The members of `IPACM_Config` that matter here, and the kernel. -/
structure RmConfig where
  ipaRmTbl : List RmClient
  ipaRmA2Check : ℤ
  kernel : RmKernel

/-- The table that `Init` writes. -/
def ipaRmTblInit : List RmClient :=
  [{ producerRm1 := .wlanProd, consumerRm1 := .q6Cons,
     producerRm2 := .q6Prod, consumerRm2 := .wlanCons },
   { producerRm1 := .usbProd, consumerRm1 := .q6Cons,
     producerRm2 := .q6Prod, consumerRm2 := .usbCons },
   { producerRm1 := .wlanProd, consumerRm1 := .usbCons,
     producerRm2 := .usbProd, consumerRm2 := .wlanCons },
   { producerRm1 := .oduAdaptProd, consumerRm1 := .q6Cons,
     producerRm2 := .q6Prod, consumerRm2 := .oduAdaptCons },
   { producerRm1 := .wlanProd, consumerRm1 := .oduAdaptCons,
     producerRm2 := .oduAdaptProd, consumerRm2 := .wlanCons },
   { producerRm1 := .oduAdaptProd, consumerRm1 := .usbCons,
     producerRm2 := .usbProd, consumerRm2 := .oduAdaptCons }]

namespace RmConfig

/-- The configuration behind `Init`. -/
def init : RmConfig where
  ipaRmTbl := ipaRmTblInit
  ipaRmA2Check := 0
  kernel := {}

/-- `AddRmDepend`. -/
def addRmDepend (c : RmConfig) (rm1 : RmResource) (rxBypassIpa : Bool) : RmConfig :=
  let r := forEntries (fun e k => e.addRm rm1 rxBypassIpa k) c.ipaRmTbl c.kernel
  { ipaRmTbl := r.1
    ipaRmA2Check := if rm1 = .q6Cons then c.ipaRmA2Check + 1 else c.ipaRmA2Check
    kernel := r.2 }

/-- `DelRmDepend`. -/
def delRmDepend (c : RmConfig) (rm1 : RmResource) : RmConfig :=
  let ipaRmA2Check := if rm1 = .q6Cons then c.ipaRmA2Check - 1 else c.ipaRmA2Check
  let r := forEntries (fun e k => e.delRm rm1 ipaRmA2Check k) c.ipaRmTbl c.kernel
  { ipaRmTbl := r.1, ipaRmA2Check, kernel := r.2 }

end RmConfig

/-- A call. -/
inductive RmOp
  | add (rm1 : RmResource) (rxBypassIpa : Bool)
  | del (rm1 : RmResource)
  deriving DecidableEq, Repr

/-- What a call does. -/
def RmOp.call (c : RmConfig) : RmOp → RmConfig
  | .add rm1 rxBypassIpa => c.addRmDepend rm1 rxBypassIpa
  | .del rm1 => c.delRmDepend rm1

/-- One call. -/
def RmOp.Step (c : RmConfig) (op : RmOp) (c' : RmConfig) : Prop := op.call c = c'

/-! ## What is up -/

/-- The last call about a resource, if it was an `AddRmDepend`: whether it bypasses IPA. -/
def lastAdd (r : RmResource) (ops : List RmOp) : Option Bool :=
  ops.foldl (fun last op =>
    match op with
    | .add rm1 rxBypassIpa => if rm1 = r then some rxBypassIpa else last
    | .del rm1 => if rm1 = r then none else last) none

/-- How many more times `Q6_CONS` was added than deleted. -/
def q6Count (ops : List RmOp) : ℤ :=
  ops.foldl (fun n op =>
    match op with
    | .add rm1 _ => if rm1 = .q6Cons then n + 1 else n
    | .del rm1 => if rm1 = .q6Cons then n - 1 else n) 0

/-- **A resource is up** behind some calls: its last call added it, or for `Q6_CONS` there were more
adds than deletes. -/
def Up (ops : List RmOp) (r : RmResource) : Bool :=
  if r = .q6Cons then 0 < q6Count ops else (lastAdd r ops).isSome

/-- **A producer bypasses IPA** when its last add said so. -/
def Bypass (ops : List RmOp) (r : RmResource) : Bool := lastAdd r ops = some true

/-- **The calls that the table is made for**: `Q6_CONS` is added while it was not deleted more often
than added, and deleted while there are at most two of it; and a producer of an entry that is set up
is not added again with another bypass flag. -/
def RmOp.Fits (c : RmConfig) : RmOp → Prop
  | .add rm1 rxBypassIpa => (rm1 = .q6Cons → 0 ≤ c.ipaRmA2Check) ∧
      ∀ e ∈ c.ipaRmTbl, e.producerRm1 = rm1 → e.rmSet = true → rxBypassIpa = e.rxBypassIpa
  | .del rm1 => rm1 = .q6Cons → c.ipaRmA2Check ≤ 2

instance (c : RmConfig) : (op : RmOp) → Decidable (op.Fits c)
  | .add rm1 rxBypassIpa => inferInstanceAs (Decidable ((rm1 = .q6Cons → 0 ≤ c.ipaRmA2Check) ∧
      ∀ e ∈ c.ipaRmTbl, e.producerRm1 = rm1 → e.rmSet = true → rxBypassIpa = e.rxBypassIpa))
  | .del rm1 => inferInstanceAs (Decidable (rm1 = .q6Cons → c.ipaRmA2Check ≤ 2))

/-- A call that fits. -/
def RmOp.FitStep (c : RmConfig) (op : RmOp) (c' : RmConfig) : Prop := op.Fits c ∧ op.Step c c'

/-! ## One entry -/

/-- The kernel was used properly so far. -/
structure RmKernel.Ok (k : RmKernel) : Prop where
  nodup : k.deps.Nodup
  ok : k.ok = true

/-- **An entry agrees with what is up** and what bypasses IPA, and so do its dependencies. -/
structure RmClient.Ok (up bypass : RmResource → Bool) (e : RmClient) (k : RmKernel) : Prop where
  producer : e.producer1Up = up e.producerRm1
  consumer : e.consumer1Up = up e.consumerRm1
  set : e.rmSet = (up e.producerRm1 && up e.consumerRm1)
  bypass : up e.producerRm1 = true → e.rxBypassIpa = bypass e.producerRm1
  dep2 : e.dep2 ∈ k.deps ↔ e.rmSet = true
  dep1 : e.dep1 ∈ k.deps ↔ e.rmSet = true ∧ e.rxBypassIpa = false

/-- The resources of an entry. -/
def RmClient.names (e : RmClient) : RmResource × RmResource × RmResource × RmResource :=
  (e.producerRm1, e.consumerRm1, e.producerRm2, e.consumerRm2)

/-- The dependencies of an entry. -/
def RmClient.deps (e : RmClient) : List RmDep := [e.dep1, e.dep2]

/-- A pass leaves the entry with its resources and in agreement, and touches its own dependencies
only. -/
structure RmClient.PassOk (up bypass : RmResource → Bool) (e : RmClient) (k : RmKernel)
    (r : RmClient × RmKernel) : Prop where
  entry : r.1.Ok up bypass r.2
  kernel : r.2.Ok
  names : r.1.names = e.names
  frame : ∀ d ∉ e.deps, d ∈ r.2.deps ↔ d ∈ k.deps

section Entry

variable {up up' bypass bypass' : RmResource → Bool} {e : RmClient} {k k' : RmKernel} {d d' : RmDep}
  {rm1 : RmResource} {b : Bool} {n : ℤ}

lemma RmKernel.Ok.add (hk : k.Ok) (hd : d ∉ k.deps) :
    (k.add d).Ok ∧ ∀ d', d' ∈ (k.add d).deps ↔ d' = d ∨ d' ∈ k.deps := by
  refine ⟨⟨List.nodup_cons.mpr ⟨hd, hk.nodup⟩, ?_⟩, fun d' => List.mem_cons⟩
  simp [RmKernel.add, hk.ok, hd]

lemma RmKernel.Ok.del (hk : k.Ok) (hd : d ∈ k.deps) :
    (k.del d).Ok ∧ ∀ d', d' ∈ (k.del d).deps ↔ d' ≠ d ∧ d' ∈ k.deps := by
  refine ⟨⟨hk.nodup.erase d, ?_⟩, fun d' => hk.nodup.mem_erase_iff⟩
  simp [RmKernel.del, hk.ok, hd]

/-- Adding the dependencies of an entry that has none. -/
lemma RmClient.setup_ok (hk : k.Ok) (hne : e.dep1 ≠ e.dep2) (h1 : e.dep1 ∉ k.deps)
    (h2 : e.dep2 ∉ k.deps) : (e.setup k).2.Ok ∧ e.dep2 ∈ (e.setup k).2.deps ∧
      (e.dep1 ∈ (e.setup k).2.deps ↔ e.rxBypassIpa = false) ∧
      ∀ d ∉ e.deps, d ∈ (e.setup k).2.deps ↔ d ∈ k.deps := by
  unfold RmClient.setup
  cases hb : e.rxBypassIpa with
  | true =>
      obtain ⟨hok, hmem⟩ := hk.add h2
      refine ⟨hok, (hmem _).mpr (Or.inl rfl), ?_, fun d hd => ?_⟩
      · exact iff_of_false (by simp [hmem, hne, h1]) (by simp)
      · simp only [RmClient.deps, List.mem_cons, not_or] at hd
        simp [hmem, hd.2.1]
  | false =>
      obtain ⟨hok, hmem⟩ := hk.add h1
      obtain ⟨hok', hmem'⟩ := hok.add (d := e.dep2) (by simp [hmem, hne.symm, h2])
      refine ⟨hok', (hmem' _).mpr (Or.inl rfl), ?_, fun d hd => ?_⟩
      · exact iff_of_true (by simp [hmem', hmem]) rfl
      · simp only [RmClient.deps, List.mem_cons, not_or] at hd
        simp [hmem', hmem, hd.1, hd.2.1]

/-- Deleting the dependencies of an entry that has them. -/
lemma RmClient.teardown_ok (hk : k.Ok) (hne : e.dep1 ≠ e.dep2)
    (h1 : e.dep1 ∈ k.deps ↔ e.rxBypassIpa = false) (h2 : e.dep2 ∈ k.deps) :
    (e.teardown k).2.Ok ∧ e.dep2 ∉ (e.teardown k).2.deps ∧ e.dep1 ∉ (e.teardown k).2.deps ∧
      ∀ d ∉ e.deps, d ∈ (e.teardown k).2.deps ↔ d ∈ k.deps := by
  unfold RmClient.teardown
  cases hb : e.rxBypassIpa with
  | true =>
      obtain ⟨hok, hmem⟩ := hk.del h2
      have h1' : e.dep1 ∉ k.deps := by simp [h1, hb]
      refine ⟨hok, by simp [hmem], by simp [hmem, h1'], fun d hd => ?_⟩
      simp only [RmClient.deps, List.mem_cons, not_or] at hd
      simp [hmem, hd.2.1]
  | false =>
      obtain ⟨hok, hmem⟩ := hk.del (h1.mpr hb)
      obtain ⟨hok', hmem'⟩ := hok.del (d := e.dep2) (by simp [hmem, hne.symm, h2])
      refine ⟨hok', by simp [hmem'], by simp [hmem', hmem], fun d hd => ?_⟩
      simp only [RmClient.deps, List.mem_cons, not_or] at hd
      simp [hmem', hmem, hd.1, hd.2.1]

/-- An entry depends on the kernel through its own dependencies only. -/
lemma RmClient.Ok.congr (H : e.Ok up bypass k) (h : ∀ d ∈ e.deps, d ∈ k'.deps ↔ d ∈ k.deps) :
    e.Ok up bypass k' :=
  ⟨H.producer, H.consumer, H.set, H.bypass, (h _ (by simp [RmClient.deps])).trans H.dep2,
    (h _ (by simp [RmClient.deps])).trans H.dep1⟩

/-- An entry that has nothing to do with the resource. -/
lemma RmClient.Ok.other (H : e.Ok up bypass k) (hk : k.Ok)
    (hp : up' e.producerRm1 = up e.producerRm1) (hc : up' e.consumerRm1 = up e.consumerRm1)
    (hb : bypass' e.producerRm1 = bypass e.producerRm1) : e.PassOk up' bypass' k (e, k) := by
  refine ⟨⟨?_, ?_, ?_, ?_, H.dep2, H.dep1⟩, hk, rfl, fun _ _ => Iff.rfl⟩
  · rw [hp, H.producer]
  · rw [hc, H.consumer]
  · rw [hp, hc, H.set]
  · rw [hp, hb]
    exact H.bypass

/-- A pass of `AddRmDepend` for a producer. -/
lemma RmClient.addRm_producer (hc : rm1 ≠ e.consumerRm1) :
    e.addRm rm1 b k = e.addProducer rm1 b k := by
  have hsame : (e.addProducer rm1 b k).1.consumerRm1 = e.consumerRm1 := by
    unfold RmClient.addProducer RmClient.setup
    simp only
    split_ifs <;> rfl
  rw [RmClient.addRm, RmClient.addConsumer, if_neg (by rwa [hsame])]

/-- A pass of `AddRmDepend` for a consumer. -/
lemma RmClient.addRm_consumer (hp : rm1 ≠ e.producerRm1) :
    e.addRm rm1 b k = e.addConsumer rm1 k := by
  rw [RmClient.addRm, RmClient.addProducer, if_neg hp]

/-- **The producer of an entry comes up.** -/
lemma RmClient.Ok.addProducer (H : e.Ok up bypass k) (hk : k.Ok) (hne : e.dep1 ≠ e.dep2)
    (hp : rm1 = e.producerRm1) (hfit : e.rmSet = true → b = e.rxBypassIpa)
    (hup1 : up' e.producerRm1 = true) (hup2 : up' e.consumerRm1 = up e.consumerRm1)
    (hbyp1 : bypass' e.producerRm1 = b) : e.PassOk up' bypass' k (e.addProducer rm1 b k) := by
  unfold RmClient.addProducer
  rw [if_pos hp]
  by_cases hset : e.consumer1Up = true ∧ e.rmSet = false
  · -- the producer was the one that was missing
    have h1 : e.dep1 ∉ k.deps := by simp [H.dep1, hset.2]
    have h2 : e.dep2 ∉ k.deps := by simp [H.dep2, hset.2]
    obtain ⟨hok, hm2, hm1, hframe⟩ :=
      RmClient.setup_ok (e := { e with producer1Up := true, rxBypassIpa := b }) hk hne h1 h2
    simp only [if_pos hset]
    refine ⟨⟨hup1.symm, H.consumer.trans hup2.symm, ?_, fun _ => hbyp1.symm, iff_of_true hm2 rfl,
      hm1.trans ?_⟩, hok, rfl, hframe⟩
    · change true = (up' e.producerRm1 && up' e.consumerRm1)
      rw [hup1, hup2, ← H.consumer, hset.1]
      rfl
    · exact (and_iff_right (a := true = true) rfl).symm
  · simp only [if_neg hset]
    refine ⟨⟨hup1.symm, H.consumer.trans hup2.symm, ?_, fun _ => hbyp1.symm, H.dep2, ?_⟩, hk, rfl,
      fun _ _ => Iff.rfl⟩
    · -- it is set up exactly when the consumer is up
      have hs := H.set
      change e.rmSet = (up' e.producerRm1 && up' e.consumerRm1)
      rw [hup1, hup2, Bool.true_and]
      rw [← H.consumer] at hs ⊢
      cases hs' : e.rmSet <;> cases hc' : e.consumer1Up <;> simp_all
    · refine H.dep1.trans (and_congr_right fun hs => ?_)
      rw [hfit hs]

/-- **The consumer of an entry comes up.** -/
lemma RmClient.Ok.addConsumer (H : e.Ok up bypass k) (hk : k.Ok) (hne : e.dep1 ≠ e.dep2)
    (hc : rm1 = e.consumerRm1) (hup1 : up' e.producerRm1 = up e.producerRm1)
    (hup2 : up' e.consumerRm1 = true) (hbyp1 : bypass' e.producerRm1 = bypass e.producerRm1) :
    e.PassOk up' bypass' k (e.addConsumer rm1 k) := by
  unfold RmClient.addConsumer
  rw [if_pos hc]
  have hbypass : up' e.producerRm1 = true → e.rxBypassIpa = bypass' e.producerRm1 :=
    fun h => (H.bypass (hup1 ▸ h)).trans hbyp1.symm
  by_cases hset : e.producer1Up = true ∧ e.rmSet = false
  · have h1 : e.dep1 ∉ k.deps := by simp [H.dep1, hset.2]
    have h2 : e.dep2 ∉ k.deps := by simp [H.dep2, hset.2]
    obtain ⟨hok, hm2, hm1, hframe⟩ :=
      RmClient.setup_ok (e := { e with consumer1Up := true }) hk hne h1 h2
    simp only [if_pos hset]
    refine ⟨⟨H.producer.trans hup1.symm, hup2.symm, ?_, hbypass, iff_of_true hm2 rfl,
      hm1.trans ?_⟩, hok, rfl, hframe⟩
    · change true = (up' e.producerRm1 && up' e.consumerRm1)
      rw [hup1, hup2, ← H.producer, hset.1]
      rfl
    · exact (and_iff_right (a := true = true) rfl).symm
  · simp only [if_neg hset]
    refine ⟨⟨H.producer.trans hup1.symm, hup2.symm, ?_, hbypass, H.dep2, H.dep1⟩, hk, rfl,
      fun _ _ => Iff.rfl⟩
    have hs := H.set
    change e.rmSet = (up' e.producerRm1 && up' e.consumerRm1)
    rw [hup1, hup2, Bool.and_true]
    rw [← H.producer] at hs ⊢
    cases hs' : e.rmSet <;> cases hp' : e.producer1Up <;> simp_all

/-- **One pass of `AddRmDepend`.** -/
lemma RmClient.Ok.addRm (H : e.Ok up bypass k) (hk : k.Ok) (hne : e.dep1 ≠ e.dep2)
    (hpc : e.producerRm1 ≠ e.consumerRm1)
    (hfit : e.producerRm1 = rm1 → e.rmSet = true → b = e.rxBypassIpa)
    (hup : ∀ r, up' r = if r = rm1 then true else up r)
    (hbyp : ∀ r, bypass' r = if r = rm1 then b else bypass r) :
    e.PassOk up' bypass' k (e.addRm rm1 b k) := by
  by_cases hp : rm1 = e.producerRm1
  · have hc : rm1 ≠ e.consumerRm1 := fun h => hpc (hp.symm.trans h)
    rw [RmClient.addRm_producer hc]
    exact H.addProducer hk hne hp (hfit hp.symm) (by rw [hup, if_pos hp.symm])
      (by rw [hup, if_neg hc.symm]) (by rw [hbyp, if_pos hp.symm])
  · rw [RmClient.addRm_consumer hp]
    have hup1 : up' e.producerRm1 = up e.producerRm1 := by rw [hup, if_neg (Ne.symm hp)]
    have hbyp1 : bypass' e.producerRm1 = bypass e.producerRm1 := by rw [hbyp, if_neg (Ne.symm hp)]
    by_cases hc : rm1 = e.consumerRm1
    · exact H.addConsumer hk hne hc hup1 (by rw [hup, if_pos hc.symm]) hbyp1
    · rw [RmClient.addConsumer, if_neg hc]
      exact H.other hk hup1 (by rw [hup, if_neg (Ne.symm hc)]) hbyp1

/-- Taking an entry down, if it is set up. -/
lemma RmClient.Ok.takeDown (H : e.Ok up bypass k) (hk : k.Ok) (hne : e.dep1 ≠ e.dep2)
    {r : RmClient × RmKernel} (hr : r = if e.rmSet = true then e.teardown k else (e, k)) :
    r.1 = { e with rmSet := false } ∧ r.2.Ok ∧ e.dep2 ∉ r.2.deps ∧ e.dep1 ∉ r.2.deps ∧
      ∀ d ∉ e.deps, d ∈ r.2.deps ↔ d ∈ k.deps := by
  subst hr
  by_cases hset : e.rmSet = true
  · rw [if_pos hset]
    exact ⟨rfl, RmClient.teardown_ok hk hne (H.dep1.trans (and_iff_right hset)) (H.dep2.mpr hset)⟩
  · rw [if_neg hset]
    have hoff : e.rmSet = false := by simpa using hset
    refine ⟨?_, hk, by simp [H.dep2, hoff], by simp [H.dep1, hoff], fun _ _ => Iff.rfl⟩
    rw [← hoff]

/-- **One pass of `DelRmDepend`**, with `n` times `Q6_CONS` left. -/
lemma RmClient.Ok.delRm (H : e.Ok up bypass k) (hk : k.Ok) (hne : e.dep1 ≠ e.dep2)
    (hpc : e.producerRm1 ≠ e.consumerRm1) (hpq : e.producerRm1 ≠ .q6Cons)
    (hup : ∀ r, up' r = if r = rm1 then (if rm1 = .q6Cons then decide (0 < n) else false) else up r)
    (hbyp : ∀ r, bypass' r = if r = rm1 then false else bypass r)
    (hq6 : rm1 = .q6Cons → n ≤ 1 ∧ up .q6Cons = decide (0 < n + 1)) :
    e.PassOk up' bypass' k (e.delRm rm1 n k) := by
  by_cases hp : rm1 = e.producerRm1
  · have hc : rm1 ≠ e.consumerRm1 := fun h => hpc (hp.symm.trans h)
    have hup1 : up' e.producerRm1 = false := by rw [hup, if_pos hp.symm, if_neg (hp ▸ hpq)]
    have hup2 : up' e.consumerRm1 = up e.consumerRm1 := by rw [hup, if_neg hc.symm]
    obtain ⟨h1, hok, hm2, hm1, hframe⟩ := H.takeDown hk hne rfl
    have heq : e.delRm rm1 n k =
        ({ e with rmSet := false, producer1Up := false, rxBypassIpa := false },
          (if e.rmSet = true then e.teardown k else (e, k)).2) := by
      unfold RmClient.delRm RmClient.delProducer
      rw [if_pos hp]
      simp only [h1]
      rw [RmClient.delConsumer, if_neg hc]
    rw [heq]
    refine ⟨⟨hup1.symm, H.consumer.trans hup2.symm, ?_, fun h => ?_, iff_of_false hm2 (by simp),
      iff_of_false hm1 (by simp)⟩, hok, rfl, hframe⟩
    · change false = (up' e.producerRm1 && up' e.consumerRm1)
      rw [hup1, Bool.false_and]
    · change up' e.producerRm1 = true at h
      rw [hup1] at h
      simp at h
  · have hpass : e.delProducer rm1 k = (e, k) := by rw [RmClient.delProducer, if_neg hp]
    have hup1 : up' e.producerRm1 = up e.producerRm1 := by rw [hup, if_neg (Ne.symm hp)]
    have hbyp1 : bypass' e.producerRm1 = bypass e.producerRm1 := by rw [hbyp, if_neg (Ne.symm hp)]
    rw [RmClient.delRm, hpass, RmClient.delConsumer]
    by_cases hc : rm1 = e.consumerRm1
    · rw [if_pos hc]
      by_cases hkeep : e.consumerRm1 = .q6Cons ∧ n = 1
      · -- one route was deleted and one is left
        rw [if_pos hkeep]
        have hrm : rm1 = .q6Cons := hc.trans hkeep.1
        refine H.other hk hup1 ?_ hbyp1
        rw [hup, if_pos hc.symm, if_pos hrm, hkeep.1, (hq6 hrm).2, hkeep.2]
        rfl
      · rw [if_neg hkeep]
        have hup2 : up' e.consumerRm1 = false := by
          rw [hup, if_pos hc.symm]
          by_cases hrm : rm1 = .q6Cons
          · have hn1 : n ≠ 1 := fun h => hkeep ⟨hc.symm.trans hrm, h⟩
            have hn := (hq6 hrm).1
            rw [if_pos hrm, decide_eq_false_iff_not]
            omega
          · rw [if_neg hrm]
        obtain ⟨h1, hok, hm2, hm1, hframe⟩ := H.takeDown hk hne rfl
        simp only [h1]
        refine ⟨⟨H.producer.trans hup1.symm, hup2.symm, ?_, fun h => ?_, iff_of_false hm2 (by simp),
          iff_of_false hm1 (by simp)⟩, hok, rfl, hframe⟩
        · change false = (up' e.producerRm1 && up' e.consumerRm1)
          rw [hup2, Bool.and_false]
        · exact (H.bypass (hup1 ▸ h)).trans hbyp1.symm
    · rw [if_neg hc]
      exact H.other hk hup1 (by rw [hup, if_neg (Ne.symm hc)]) hbyp1

end Entry

/-! ## The table -/

section Table

variable {up up' bypass bypass' : RmResource → Bool} {k : RmKernel} {tbl : List RmClient}
  {body : RmClient → RmKernel → RmClient × RmKernel}

lemma RmClient.deps_eq {e e' : RmClient} (h : e.names = e'.names) : e.deps = e'.deps := by
  simp only [RmClient.names, Prod.mk.injEq] at h
  obtain ⟨h1, h2, h3, h4⟩ := h
  simp only [RmClient.deps, RmClient.dep1, RmClient.dep2, h1, h2, h3, h4]

/-- **The loop over the table**: passes that are right for each entry are right for the table, since
no two entries share a dependency. -/
theorem forEntries_ok
    (hbody : ∀ e ∈ tbl, ∀ k : RmKernel, e.Ok up bypass k → k.Ok → e.PassOk up' bypass' k (body e k))
    (hd : (tbl.flatMap RmClient.deps).Nodup) (H : ∀ e ∈ tbl, e.Ok up bypass k) (hk : k.Ok) :
    (∀ e ∈ (forEntries body tbl k).1, e.Ok up' bypass' (forEntries body tbl k).2) ∧
      (forEntries body tbl k).2.Ok ∧
      (forEntries body tbl k).1.map RmClient.names = tbl.map RmClient.names ∧
      ∀ d ∉ tbl.flatMap RmClient.deps, d ∈ (forEntries body tbl k).2.deps ↔ d ∈ k.deps := by
  induction tbl generalizing k with
  | nil => exact ⟨by simp [forEntries], hk, rfl, fun _ _ => Iff.rfl⟩
  | cons e tbl ih =>
      rw [List.flatMap_cons, List.nodup_append] at hd
      obtain ⟨-, hdt, hdisj⟩ := hd
      have hp := hbody e (by simp) k (H e (by simp)) hk
      -- the entries behind do not see the pass
      have Ht : ∀ e' ∈ tbl, e'.Ok up bypass (body e k).2 := fun e' he' =>
        (H e' (by simp [he'])).congr fun d hdm => hp.frame d fun hde =>
          hdisj d hde d (List.mem_flatMap.mpr ⟨e', he', hdm⟩) rfl
      obtain ⟨h1, h2, h3, h4⟩ := ih (fun e' he' => hbody e' (by simp [he'])) hdt Ht hp.kernel
      refine ⟨fun e' he' => ?_, h2, ?_, fun d hdn => ?_⟩
      · rcases List.mem_cons.mp he' with rfl | he'
        · -- nor does the entry see the passes behind it
          refine hp.entry.congr fun d hdm => h4 d fun hdt' => ?_
          exact hdisj d (RmClient.deps_eq hp.names ▸ hdm) d hdt' rfl
        · exact h1 e' he'
      · change (body e k).1.names :: _ = e.names :: _
        rw [hp.names, h3]
      · rw [List.flatMap_cons, List.mem_append, not_or] at hdn
        exact (h4 d hdn.2).trans (hp.frame d hdn.1)

lemma flatMap_deps_eq {tbl' : List RmClient}
    (h : tbl.map RmClient.names = tbl'.map RmClient.names) :
    tbl.flatMap RmClient.deps = tbl'.flatMap RmClient.deps := by
  have hmap : ∀ l : List RmClient, l.flatMap RmClient.deps =
      (l.map RmClient.names).flatMap fun n => [(n.1, n.2.1), (n.2.2.1, n.2.2.2)] := fun l => by
    rw [List.flatMap_map]
    rfl
  rw [hmap, h, ← hmap]

end Table

/-- No two entries of the table share a dependency. -/
lemma ipaRmTblInit_nodup : (ipaRmTblInit.flatMap RmClient.deps).Nodup := by decide

/-- What the entries of the table have in common. -/
lemma ipaRmTblInit_names : ∀ e ∈ ipaRmTblInit, e.dep1 ≠ e.dep2 ∧ e.producerRm1 ≠ e.consumerRm1 ∧
    e.producerRm1 ≠ .q6Cons := by decide

/-! ## Every sequence of calls -/

section History

variable {ops : List RmOp} {r rm1 : RmResource} {b : Bool}

lemma lastAdd_snoc_add : lastAdd r (ops ++ [RmOp.add rm1 b]) =
    if rm1 = r then some b else lastAdd r ops := by
  simp [lastAdd]

lemma lastAdd_snoc_del : lastAdd r (ops ++ [RmOp.del rm1]) =
    if rm1 = r then none else lastAdd r ops := by
  simp [lastAdd]

lemma q6Count_snoc_add : q6Count (ops ++ [RmOp.add rm1 b]) =
    if rm1 = .q6Cons then q6Count ops + 1 else q6Count ops := by
  simp [q6Count]

lemma q6Count_snoc_del : q6Count (ops ++ [RmOp.del rm1]) =
    if rm1 = .q6Cons then q6Count ops - 1 else q6Count ops := by
  simp [q6Count]

lemma Up_snoc_add (hq6 : rm1 = .q6Cons → 0 ≤ q6Count ops) (r : RmResource) :
    Up (ops ++ [RmOp.add rm1 b]) r = if r = rm1 then true else Up ops r := by
  unfold Up
  rw [lastAdd_snoc_add, q6Count_snoc_add]
  by_cases hr : r = rm1
  · subst hr
    by_cases hq : r = .q6Cons
    · have := hq6 hq
      simp only [hq, if_true, decide_eq_true_eq]
      omega
    · simp [hq]
  · by_cases hq : r = .q6Cons
    · have : ¬ rm1 = .q6Cons := fun h => hr (hq.trans h.symm)
      simp [hq, this, Ne.symm this]
    · simp [hr, hq, Ne.symm hr]

lemma Up_snoc_del (r : RmResource) : Up (ops ++ [RmOp.del rm1]) r =
    if r = rm1 then (if rm1 = .q6Cons then decide (0 < q6Count (ops ++ [RmOp.del rm1])) else false)
      else Up ops r := by
  unfold Up
  rw [lastAdd_snoc_del]
  by_cases hr : r = rm1
  · subst hr
    by_cases hq : r = .q6Cons
    · simp [hq]
    · simp [hq]
  · by_cases hq : r = .q6Cons
    · have : ¬ rm1 = .q6Cons := fun h => hr (hq.trans h.symm)
      simp [hq, q6Count_snoc_del, this, Ne.symm this]
    · simp [hr, hq, Ne.symm hr]

lemma Bypass_snoc_add (r : RmResource) :
    Bypass (ops ++ [RmOp.add rm1 b]) r = if r = rm1 then b else Bypass ops r := by
  unfold Bypass
  rw [lastAdd_snoc_add]
  by_cases hr : r = rm1
  · cases b <;> simp [hr]
  · simp [hr, Ne.symm hr]

lemma Bypass_snoc_del (r : RmResource) :
    Bypass (ops ++ [RmOp.del rm1]) r = if r = rm1 then false else Bypass ops r := by
  unfold Bypass
  rw [lastAdd_snoc_del]
  by_cases hr : r = rm1
  · simp [hr]
  · simp [hr, Ne.symm hr]

end History

/-- **What holds behind some calls.** -/
structure RmConfig.Ok (ops : List RmOp) (c : RmConfig) : Prop where
  count : c.ipaRmA2Check = q6Count ops
  names : c.ipaRmTbl.map RmClient.names = ipaRmTblInit.map RmClient.names
  entries : ∀ e ∈ c.ipaRmTbl, e.Ok (Up ops) (Bypass ops) c.kernel
  kernel : c.kernel.Ok
  only : ∀ d ∈ c.kernel.deps, d ∈ c.ipaRmTbl.flatMap RmClient.deps

section Run

variable {ops : List RmOp} {op : RmOp} {c c' : RmConfig}

lemma RmConfig.Ok.init : RmConfig.Ok [] RmConfig.init := by
  refine ⟨rfl, rfl, fun e he => ?_, ⟨.nil, rfl⟩, by simp [RmConfig.init]⟩
  have hup : ∀ r, Up [] r = false := fun r => by
    unfold Up
    split_ifs <;> rfl
  have hoff : ∀ e ∈ ipaRmTblInit, e.producer1Up = false ∧ e.consumer1Up = false ∧
      e.rmSet = false := by decide
  obtain ⟨h1, h2, h3⟩ := hoff e he
  refine ⟨by rw [h1, hup], by rw [h2, hup], by rw [h3, hup]; rfl, fun h => ?_, ?_, ?_⟩
  · rw [hup] at h
    simp at h
  · exact iff_of_false (by simp [RmConfig.init]) (by simp [h3])
  · exact iff_of_false (by simp [RmConfig.init]) (by simp [h3])

/-- The resources of the entries are those of the table that `Init` writes. -/
lemma RmConfig.Ok.entry_names (H : c.Ok ops) {e : RmClient} (he : e ∈ c.ipaRmTbl) :
    e.dep1 ≠ e.dep2 ∧ e.producerRm1 ≠ e.consumerRm1 ∧ e.producerRm1 ≠ .q6Cons := by
  have hmem : e.names ∈ ipaRmTblInit.map RmClient.names := H.names ▸ List.mem_map_of_mem he
  obtain ⟨e₀, he₀, hn⟩ := List.mem_map.mp hmem
  have := ipaRmTblInit_names e₀ he₀
  simp only [RmClient.names, Prod.mk.injEq] at hn
  obtain ⟨h1, h2, h3, h4⟩ := hn
  rwa [RmClient.dep1, RmClient.dep2, h1, h2, h3, h4] at this

/-- A loop over the table whose passes are right. -/
lemma RmConfig.Ok.forEntries {ops' : List RmOp} (H : c.Ok ops)
    {body : RmClient → RmKernel → RmClient × RmKernel}
    (hbody : ∀ e ∈ c.ipaRmTbl, ∀ k : RmKernel, e.Ok (Up ops) (Bypass ops) k → k.Ok →
      e.PassOk (Up ops') (Bypass ops') k (body e k)) :
    RmConfig.Ok ops'
      { ipaRmTbl := (Ipacm.forEntries body c.ipaRmTbl c.kernel).1
        ipaRmA2Check := q6Count ops'
        kernel := (Ipacm.forEntries body c.ipaRmTbl c.kernel).2 } := by
  have hd : (c.ipaRmTbl.flatMap RmClient.deps).Nodup := by
    rw [flatMap_deps_eq H.names]
    exact ipaRmTblInit_nodup
  obtain ⟨h1, h2, h3, h4⟩ := forEntries_ok hbody hd H.entries H.kernel
  refine ⟨rfl, h3.trans H.names, h1, h2, fun d hdm => ?_⟩
  rw [flatMap_deps_eq h3]
  by_contra hdn
  exact hdn (H.only d ((h4 d hdn).mp hdm))

/-- **A call that fits keeps the table in agreement.** -/
theorem RmConfig.Ok.step (H : c.Ok ops) (h : op.FitStep c c') : c'.Ok (ops ++ [op]) := by
  obtain ⟨hfit, rfl⟩ := h
  cases op with
  | add rm1 b =>
      have hcount : (if rm1 = .q6Cons then c.ipaRmA2Check + 1 else c.ipaRmA2Check) =
          q6Count (ops ++ [RmOp.add rm1 b]) := by rw [q6Count_snoc_add, H.count]
      change RmConfig.Ok _ (c.addRmDepend rm1 b)
      rw [RmConfig.addRmDepend, hcount]
      refine H.forEntries fun e he k hek hk => ?_
      obtain ⟨hne, hpc, -⟩ := H.entry_names he
      exact hek.addRm hk hne hpc (hfit.2 e he) (Up_snoc_add fun hq => H.count ▸ hfit.1 hq)
        Bypass_snoc_add
  | del rm1 =>
      have hcount : (if rm1 = .q6Cons then c.ipaRmA2Check - 1 else c.ipaRmA2Check) =
          q6Count (ops ++ [RmOp.del rm1]) := by rw [q6Count_snoc_del, H.count]
      change RmConfig.Ok _ (c.delRmDepend rm1)
      simp only [RmConfig.delRmDepend, hcount]
      refine H.forEntries fun e he k hek hk => ?_
      obtain ⟨hne, hpc, hpq⟩ := H.entry_names he
      refine hek.delRm hk hne hpc hpq Up_snoc_del Bypass_snoc_del fun hq => ?_
      have hle := hfit hq
      rw [H.count] at hle
      rw [q6Count_snoc_del, if_pos hq, Up, if_pos rfl]
      exact ⟨by omega, by simp⟩

end Run

/-- **Dependencies match what is up.**  Behind calls that fit, for each entry the second dependency
is registered exactly when both pipes are up, the first one exactly when moreover the producer does
not bypass IPA, and `rm_set` tells whether they are; no dependency was added twice or deleted while
it was absent, and none is left that belongs to no entry. -/
theorem rm_dependencies {ops : List RmOp} {c : RmConfig}
    (hr : Run RmOp.FitStep RmConfig.init ops c) :
    c.ipaRmTbl.map RmClient.names = ipaRmTblInit.map RmClient.names ∧
      (∀ e ∈ c.ipaRmTbl,
        (e.dep2 ∈ c.kernel.deps ↔
          Up ops e.producerRm1 = true ∧ Up ops e.consumerRm1 = true) ∧
        (e.dep1 ∈ c.kernel.deps ↔ Up ops e.producerRm1 = true ∧ Up ops e.consumerRm1 = true ∧
          Bypass ops e.producerRm1 = false) ∧
        (e.rmSet = true ↔ e.dep2 ∈ c.kernel.deps)) ∧
      c.kernel.deps.Nodup ∧ c.kernel.ok = true ∧
      ∀ d ∈ c.kernel.deps, ∃ e ∈ c.ipaRmTbl, d = e.dep1 ∨ d = e.dep2 := by
  have H : c.Ok ops := hr.history (P := fun ops c => RmConfig.Ok ops c)
    (fun _ _ _ _ h hst => h.step hst) RmConfig.Ok.init
  refine ⟨H.names, fun e he => ?_, H.kernel.nodup, H.kernel.ok, fun d hd => ?_⟩
  · have hE := H.entries e he
    have hset : e.rmSet = true ↔ Up ops e.producerRm1 = true ∧ Up ops e.consumerRm1 = true := by
      rw [hE.set, Bool.and_eq_true]
    refine ⟨hE.dep2.trans hset, ?_, hE.dep2.symm⟩
    rw [hE.dep1, hset, and_assoc]
    refine and_congr_right fun hp => and_congr_right fun _ => ?_
    rw [hE.bypass hp]
  · obtain ⟨e, he, hde⟩ := List.mem_flatMap.mp (H.only d hd)
    exact ⟨e, he, by simpa [RmClient.deps] using hde⟩

/-- The calls, one after another. -/
def RmConfig.callAll (c : RmConfig) (ops : List RmOp) : RmConfig := ops.foldl RmOp.call c

/-- WLAN comes up, then the default routes of both families, of which one goes down. -/
theorem rm_dependencies_routes :
    (RmResource.wlanProd, RmResource.q6Cons) ∈
      (RmConfig.init.callAll [.add .wlanProd false, .add .q6Cons false, .add .q6Cons false,
        .del .q6Cons]).kernel.deps := by
  have hr : Run RmOp.FitStep RmConfig.init
      [.add .wlanProd false, .add .q6Cons false, .add .q6Cons false, .del .q6Cons]
      (RmConfig.init.callAll [.add .wlanProd false, .add .q6Cons false, .add .q6Cons false,
        .del .q6Cons]) :=
    .cons ⟨by decide, rfl⟩ (.cons ⟨by decide, rfl⟩ (.cons ⟨by decide, rfl⟩
      (.cons ⟨by decide, rfl⟩ (.nil _))))
  obtain ⟨-, hall, -⟩ := rm_dependencies hr
  exact ((hall _ (List.mem_cons_self ..)).2.1).mpr (by decide)

/-- After three adds of `Q6_CONS` and one delete the dependency of WLAN is gone. -/
theorem rm_dependencies_lost : ∃ ops c, Run RmOp.Step RmConfig.init ops c ∧
    Up ops .wlanProd = true ∧ Up ops .q6Cons = true ∧
    ∃ e ∈ c.ipaRmTbl, e.producerRm1 = .wlanProd ∧ e.consumerRm1 = .q6Cons ∧
      e.dep2 ∉ c.kernel.deps := by
  refine ⟨[.add .wlanProd false, .add .q6Cons false, .add .q6Cons false, .add .q6Cons false,
    .del .q6Cons], _, .cons rfl (.cons rfl (.cons rfl (.cons rfl (.cons rfl (.nil _))))),
    by decide, by decide, ?_⟩
  decide

end Ipacm
