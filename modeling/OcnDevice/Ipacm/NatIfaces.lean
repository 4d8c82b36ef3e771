import OcnDevice.Core.Loop
import OcnDevice.Core.Run

/-!
# The NAT interfaces

`IPACM_Config` keeps the names of the interfaces that NAT is up on, with a flag for each IP family,
in an array with one element for each configured interface.  `CheckNatIfaces` should tell what was
added and not deleted.

`AddNatIfaces` counts the name first and then looks whether there is room, by `<` where the number
of names so far should decide.  So the name that would fill the array is counted and not stored, and
when one more is counted the loops run over the end of the array.  A name that does not fit into an
element is cut off when it is stored and never found again, an empty one is stored like any other,
and `IPA_IP_MAX` sets no flag.  `nat_ifaces_right_iff` says that nothing else goes wrong.

The memory behind the array is whatever it is; the indices of all accesses are recorded.
-/

namespace Ipacm.NatIfaces

/-! ## Model -/

/-- `ipa_ip_type`. -/
inductive IpaIpType
  | v4
  | v6
  | max
  deriving DecidableEq, Repr

/-- A string of the caller, up to its zero. -/
abbrev Name := List Char

/-- `IPA_IFACE_NAME_LEN`. -/
def ipaIfaceNameLen : ℕ := 16

/-- An `iface_name`: a string with its zero fits. -/
@[ext]
structure IfaceName where
  chars : Name
  length_lt : chars.length < ipaIfaceNameLen
  deriving DecidableEq

namespace IfaceName

/-- `memset` with zero. -/
def zero : IfaceName := ⟨[], by decide⟩

/-- `strlcpy`: what does not fit is cut off. -/
def strlcpy (src : Name) : IfaceName :=
  ⟨src.take (ipaIfaceNameLen - 1), by
    rw [List.length_take]
    exact Nat.lt_of_le_of_lt (Nat.min_le_left _ _) (by decide)⟩

/-- `strncmp` with the size of the element is zero. -/
def strncmp (src : Name) (name : IfaceName) : Bool :=
  src.take ipaIfaceNameLen == name.chars.take ipaIfaceNameLen

/-- `strcmp` is zero. -/
def strcmp (src : Name) (name : IfaceName) : Bool := src == name.chars

end IfaceName

/-- `NatIfaces`: an element of the array. -/
structure NatIface where
  ifaceName : IfaceName
  v4Up : Bool
  v6Up : Bool
  deriving DecidableEq

namespace NatIface

/-- An element that is reset. -/
def zero : NatIface := ⟨.zero, false, false⟩

/-- Set the flag of a family. -/
def setUp (x : NatIface) : IpaIpType → NatIface
  | .v4 => { x with v4Up := true }
  | .v6 => { x with v6Up := true }
  | .max => x

/-- The flag of a family. -/
def isUp (x : NatIface) : IpaIpType → Bool
  | .v4 => x.v4Up
  | .v6 => x.v6Up
  | .max => false

end NatIface

/-- The members of `IPACM_Config` that matter here. -/
structure Config where
  ipaNumIpaInterfaces : ℕ
  ipaNatIfaceEntries : ℕ
  pNatIfaces : ℕ → NatIface

namespace Config

/-- The array behind `calloc`, with the memory behind it. -/
def init (ipaNumIpaInterfaces : ℕ) (behind : ℕ → NatIface) : Config where
  ipaNumIpaInterfaces := ipaNumIpaInterfaces
  ipaNatIfaceEntries := 0
  pNatIfaces i := if i < ipaNumIpaInterfaces then .zero else behind i

variable (s : Config) (devName : Name) (ipType : IpaIpType)

/-- `AddNatIfaces`: the state afterwards, and the elements that were accessed. -/
def addNatIfaces : Config × List ℕ :=
  match firstIdx s.ipaNatIfaceEntries fun i =>
      IfaceName.strncmp devName (s.pNatIfaces i).ifaceName with
  | some i =>
      ({ s with pNatIfaces := Function.update s.pNatIfaces i ((s.pNatIfaces i).setUp ipType) },
        List.range (i + 1))
  | none =>
      let entries := s.ipaNatIfaceEntries + 1
      if entries < s.ipaNumIpaInterfaces then
        let x := { s.pNatIfaces (entries - 1) with ifaceName := .strlcpy devName }
        ({ s with
            ipaNatIfaceEntries := entries
            pNatIfaces := Function.update s.pNatIfaces (entries - 1) (x.setUp ipType) },
          List.range s.ipaNatIfaceEntries ++ [entries - 1])
      else ({ s with ipaNatIfaceEntries := entries }, List.range s.ipaNatIfaceEntries)

/-- The inner loop of `DelNatIfaces`: every element from `i` on is the one behind it, which is
reset. -/
def moveUp (i : ℕ) : ℕ → NatIface :=
  forUpTo (s.ipaNatIfaceEntries - 1 - i)
    (fun k x => Function.update (Function.update x (i + k) (x (i + k + 1))) (i + k + 1) .zero)
    (Function.update s.pNatIfaces i .zero)

/-- `DelNatIfaces`: the state afterwards, and the elements that were accessed. -/
def delNatIfaces : Config × List ℕ :=
  match firstIdx s.ipaNatIfaceEntries fun i =>
      IfaceName.strcmp devName (s.pNatIfaces i).ifaceName with
  | some i =>
      ({ s with
          ipaNatIfaceEntries := s.ipaNatIfaceEntries - 1
          pNatIfaces := s.moveUp i },
        List.range s.ipaNatIfaceEntries)
  | none => (s, List.range s.ipaNatIfaceEntries)

/-- `CheckNatIfaces`: the result, and the elements that were accessed. -/
def checkNatIfaces : ℤ × List ℕ :=
  match firstIdx s.ipaNatIfaceEntries fun i =>
      IfaceName.strcmp devName (s.pNatIfaces i).ifaceName with
  | some i => (if (s.pNatIfaces i).isUp ipType then 0 else -1, List.range (i + 1))
  | none => (-1, List.range s.ipaNatIfaceEntries)

end Config

/-! ## Statement -/

/-- A call. -/
inductive Op
  | add (devName : Name) (ipType : IpaIpType)
  | del (devName : Name)
  deriving DecidableEq

/-- The configuration, with what was added and not deleted since, and with the elements that were
accessed. -/
structure Logged extends Config where
  added : Finset (Name × IpaIpType)
  accessed : List ℕ

namespace Logged

/-- Nothing was added yet. -/
def init (ipaNumIpaInterfaces : ℕ) (behind : ℕ → NatIface) : Logged where
  toConfig := .init ipaNumIpaInterfaces behind
  added := ∅
  accessed := []

variable (s : Logged)

/-- A call. -/
def call : Op → Logged
  | .add devName ipType =>
      { toConfig := (s.addNatIfaces devName ipType).1
        added := insert (devName, ipType) s.added
        accessed := s.accessed ++ (s.addNatIfaces devName ipType).2 }
  | .del devName =>
      { toConfig := (s.delNatIfaces devName).1
        added := s.added.filter fun p => p.1 ≠ devName
        accessed := s.accessed ++ (s.delNatIfaces devName).2 }

/-- A call happens. -/
def Step (s : Logged) (op : Op) (t : Logged) : Prop := s.call op = t

/-- The names that are present. -/
def names : Finset Name := s.added.image Prod.fst

/-- **The array is right**: all accesses are within it, its entries have names that are distinct and
not empty, and `CheckNatIfaces` says what was added and not deleted. -/
structure Right : Prop where
  within : ∀ i ∈ s.accessed, i < s.ipaNumIpaInterfaces
  checkWithin : ∀ devName ipType, ∀ i ∈ (s.checkNatIfaces devName ipType).2,
    i < s.ipaNumIpaInterfaces
  nonempty : ∀ i < s.ipaNatIfaceEntries, (s.pNatIfaces i).ifaceName.chars ≠ []
  distinct : ∀ i < s.ipaNatIfaceEntries, ∀ j < s.ipaNatIfaceEntries,
    (s.pNatIfaces i).ifaceName = (s.pNatIfaces j).ifaceName → i = j
  check : ∀ devName ipType, (s.checkNatIfaces devName ipType).1 = 0 ↔ (devName, ipType) ∈ s.added

/-- The name is that of an entry. -/
def Known (devName : Name) : Prop :=
  ∃ i < s.ipaNatIfaceEntries, (s.pNatIfaces i).ifaceName.chars = devName

/-- **What can be added**: a family for a name that is known, or for one that is neither empty nor
too long and does not fill the array. -/
def Fits : Op → Prop
  | .add devName ipType => ipType ≠ .max ∧ (s.Known devName ∨ (devName ≠ [] ∧
      devName.length < ipaIfaceNameLen ∧ s.ipaNatIfaceEntries + 1 < s.ipaNumIpaInterfaces))
  | .del _ => True

end Logged

/-! ## Searching the array -/

section Search

variable {name : IfaceName} {src : Name}

lemma strcmp_iff : name.strcmp src = true ↔ name.chars = src := by
  rw [IfaceName.strcmp, beq_iff_eq, eq_comm]

/-- The two comparisons are the same, for what fits into an element. -/
lemma strncmp_eq_strcmp : name.strncmp src = name.strcmp src := by
  have hname : name.chars.take ipaIfaceNameLen = name.chars :=
    List.take_of_length_le name.length_lt.le
  rw [Bool.eq_iff_iff, strcmp_iff, IfaceName.strncmp, beq_iff_eq, hname]
  constructor
  · intro h
    have hlt : (src.take ipaIfaceNameLen).length < ipaIfaceNameLen := h ▸ name.length_lt
    rw [List.length_take] at hlt
    rw [← h, List.take_of_length_le (by omega)]
  · rintro rfl
    exact hname

/-- A name that fits is stored as it is. -/
lemma chars_strlcpy (h : src.length < ipaIfaceNameLen) : (IfaceName.strlcpy src).chars = src :=
  List.take_of_length_le (Nat.le_sub_one_of_lt h)

end Search

namespace Config

variable {s : Config} {devName : Name} {ipType : IpaIpType} {i j : ℕ}

/-- Where the name is found. -/
def search (s : Config) (devName : Name) : Option ℕ :=
  firstIdx s.ipaNatIfaceEntries fun i => (s.pNatIfaces i).ifaceName.strcmp devName

/-- The names of the entries are distinct. -/
def Distinct (s : Config) : Prop := ∀ i < s.ipaNatIfaceEntries, ∀ j < s.ipaNatIfaceEntries,
  (s.pNatIfaces i).ifaceName = (s.pNatIfaces j).ifaceName → i = j

lemma search_eq_some (h : s.search devName = some i) :
    i < s.ipaNatIfaceEntries ∧ (s.pNatIfaces i).ifaceName.chars = devName := by
  obtain ⟨hi, hname, -⟩ := firstIdx_eq_some.mp h
  exact ⟨hi, strcmp_iff.mp hname⟩

lemma search_eq_none : s.search devName = none ↔
    ∀ i < s.ipaNatIfaceEntries, (s.pNatIfaces i).ifaceName.chars ≠ devName := by
  rw [search, firstIdx_eq_none]
  simp only [ne_eq, ← strcmp_iff, Bool.not_eq_true]

/-- Among distinct names a name is found where it stands. -/
lemma search_of_distinct (hd : s.Distinct) (hi : i < s.ipaNatIfaceEntries)
    (hname : (s.pNatIfaces i).ifaceName.chars = devName) : s.search devName = some i := by
  cases hsearch : s.search devName with
  | none => exact absurd hname (search_eq_none.mp hsearch i hi)
  | some j =>
      obtain ⟨hj, hname'⟩ := search_eq_some hsearch
      rw [hd j hj i hi (IfaceName.ext (hname'.trans hname.symm))]

lemma addNatIfaces_of_some (h : s.search devName = some i) : s.addNatIfaces devName ipType =
    ({ s with pNatIfaces := Function.update s.pNatIfaces i ((s.pNatIfaces i).setUp ipType) },
      List.range (i + 1)) := by
  simp only [search, ← strncmp_eq_strcmp] at h
  simp only [addNatIfaces, h]

lemma addNatIfaces_of_none (h : s.search devName = none) : s.addNatIfaces devName ipType =
    if s.ipaNatIfaceEntries + 1 < s.ipaNumIpaInterfaces then
      ({ s with
          ipaNatIfaceEntries := s.ipaNatIfaceEntries + 1
          pNatIfaces := Function.update s.pNatIfaces s.ipaNatIfaceEntries
            (NatIface.setUp { s.pNatIfaces s.ipaNatIfaceEntries with
              ifaceName := .strlcpy devName } ipType) },
        List.range s.ipaNatIfaceEntries ++ [s.ipaNatIfaceEntries])
    else ({ s with ipaNatIfaceEntries := s.ipaNatIfaceEntries + 1 },
      List.range s.ipaNatIfaceEntries) := by
  simp only [search, ← strncmp_eq_strcmp] at h
  simp only [addNatIfaces, h, Nat.add_sub_cancel]

/-- **`CheckNatIfaces` reads the flag of the entry that it finds.** -/
lemma checkNatIfaces_eq_zero : (s.checkNatIfaces devName ipType).1 = 0 ↔
    ∃ i, s.search devName = some i ∧ (s.pNatIfaces i).isUp ipType = true := by
  rw [checkNatIfaces]
  change (match s.search devName with
    | some i => ((if (s.pNatIfaces i).isUp ipType then (0 : ℤ) else -1), List.range (i + 1))
    | none => (-1, List.range s.ipaNatIfaceEntries)).1 = 0 ↔ _
  cases s.search devName with
  | none => simp
  | some i => simp

/-- The elements that are looked at are entries. -/
lemma lt_of_mem_checkNatIfaces (h : i ∈ (s.checkNatIfaces devName ipType).2) :
    i < s.ipaNatIfaceEntries := by
  rw [checkNatIfaces] at h
  split at h
  · rename_i k hk
    have hlt := (firstIdx_eq_some.mp hk).1
    have hmem := List.mem_range.mp h
    omega
  · exact List.mem_range.mp h

/-- **The entries move up by one**, and the last one is reset. -/
lemma moveUp_apply (hi : i < s.ipaNatIfaceEntries) : s.moveUp i j =
    if j < i then s.pNatIfaces j
    else if j < s.ipaNatIfaceEntries - 1 then s.pNatIfaces (j + 1)
    else if j = s.ipaNatIfaceEntries - 1 then .zero else s.pNatIfaces j := by
  have hgo := forUpTo_invariant (n := s.ipaNatIfaceEntries - 1 - i)
    (s := Function.update s.pNatIfaces i .zero)
    (f := fun k x => Function.update (Function.update x (i + k) (x (i + k + 1))) (i + k + 1) .zero)
    (P := fun k x => ∀ j, x j = if j < i then s.pNatIfaces j
      else if j < i + k then s.pNatIfaces (j + 1)
      else if j = i + k then .zero else s.pNatIfaces j)
    (by
      intro j
      rcases eq_or_ne j i with rfl | hne
      · simp
      · rw [Function.update_of_ne hne]
        split_ifs <;> first | rfl | omega)
    (by
      intro k x _ hx j
      rcases eq_or_ne j (i + k + 1) with rfl | hne
      · rw [Function.update_self, if_neg (by omega), if_neg (by omega), if_pos (by omega)]
      · rw [Function.update_of_ne hne]
        rcases eq_or_ne j (i + k) with rfl | hne'
        · rw [Function.update_self, hx, if_neg (by omega), if_neg (by omega), if_neg (by omega),
            if_neg (by omega), if_pos (by omega)]
        · rw [Function.update_of_ne hne', hx]
          split_ifs <;> first | rfl | omega)
  rw [moveUp, hgo, show i + (s.ipaNatIfaceEntries - 1 - i) = s.ipaNatIfaceEntries - 1 by omega]

/-- Among distinct names a check is that of any entry with the name. -/
lemma check_iff_of_distinct (hd : s.Distinct) : (s.checkNatIfaces devName ipType).1 = 0 ↔
    ∃ i < s.ipaNatIfaceEntries, (s.pNatIfaces i).ifaceName.chars = devName ∧
      (s.pNatIfaces i).isUp ipType = true := by
  rw [checkNatIfaces_eq_zero]
  constructor
  · rintro ⟨i, hi, hup⟩
    exact ⟨i, (search_eq_some hi).1, (search_eq_some hi).2, hup⟩
  · rintro ⟨i, hi, hname, hup⟩
    exact ⟨i, search_of_distinct hd hi hname, hup⟩

/-- A check for a name that no element can hold looks at every entry. -/
lemma exists_checkNatIfaces (h : i < s.ipaNatIfaceEntries) :
    ∃ devName, ∀ ipType, i ∈ (s.checkNatIfaces devName ipType).2 := by
  refine ⟨List.replicate ipaIfaceNameLen 'x', fun ipType => ?_⟩
  have hnone : s.search (List.replicate ipaIfaceNameLen 'x') = none := by
    refine search_eq_none.mpr fun j _ hj => ?_
    have hlt := (s.pNatIfaces j).ifaceName.length_lt
    rw [hj, List.length_replicate] at hlt
    exact lt_irrefl _ hlt
  rw [search] at hnone
  simp only [checkNatIfaces, hnone]
  exact List.mem_range.mpr h

end Config

/-! ## Elements -/

section Elements

variable {x : NatIface} {ipType ipType' : IpaIpType}

@[simp] lemma ifaceName_setUp : (x.setUp ipType).ifaceName = x.ifaceName := by
  cases ipType <;> rfl

/-- **A flag is set**, unless it is that of no family. -/
lemma isUp_setUp : (x.setUp ipType).isUp ipType' = true ↔
    x.isUp ipType' = true ∨ (ipType' = ipType ∧ ipType ≠ .max) := by
  cases ipType <;> cases ipType' <;> simp [NatIface.setUp, NatIface.isUp]

lemma ne_max_of_isUp (h : x.isUp ipType = true) : ipType ≠ .max := by
  rintro rfl
  cases h

end Elements

/-! ## Calls -/

namespace Logged

variable {s t : Logged} {op : Op} {devName : Name} {ipType : IpaIpType} {i j : ℕ}

/-- The elements behind the entries are reset. -/
def Blank (s : Config) : Prop :=
  ∀ i, s.ipaNatIfaceEntries ≤ i → i < s.ipaNumIpaInterfaces → s.pNatIfaces i = .zero

lemma known_iff : s.Known devName ↔ ∃ i, s.search devName = some i := by
  rw [← Option.ne_none_iff_exists', ne_eq, Config.search_eq_none]
  simp [Known]

/-- **A call leaves the elements behind the entries reset.** -/
lemma Blank.call (h : Blank s.toConfig) : Blank (s.call op).toConfig := by
  cases op with
  | add devName ipType =>
      change Blank (s.addNatIfaces devName ipType).1
      cases hsearch : s.search devName with
      | some k =>
          have hk := (Config.search_eq_some hsearch).1
          rw [Config.addNatIfaces_of_some hsearch]
          intro i hi hlt
          dsimp only at hi hlt ⊢
          rw [Function.update_of_ne (by omega)]
          exact h i hi hlt
      | none =>
          rw [Config.addNatIfaces_of_none hsearch]
          split_ifs
          · intro i hi hlt
            dsimp only at hi hlt ⊢
            rw [Function.update_of_ne (by omega)]
            exact h i (by omega) hlt
          · intro i hi hlt
            dsimp only at hi hlt ⊢
            exact h i (by omega) hlt
  | del devName =>
      change Blank (s.delNatIfaces devName).1
      rw [Config.delNatIfaces]
      split
      · rename_i k hk
        intro i hi hlt
        dsimp only at hi hlt ⊢
        rw [Config.moveUp_apply (firstIdx_eq_some.mp hk).1]
        have hkl := (firstIdx_eq_some.mp hk).1
        rw [if_neg (by omega), if_neg (by omega)]
        split_ifs
        · rfl
        · exact h i (by omega) hlt
      · exact h

lemma Right.entries_le (h : s.Right) : s.ipaNatIfaceEntries ≤ s.ipaNumIpaInterfaces := by
  by_contra! hlt
  obtain ⟨devName, hmem⟩ := s.toConfig.exists_checkNatIfaces hlt
  exact lt_irrefl _ (h.checkWithin devName .v4 _ (hmem .v4))

/-- What is right of a table with as many entries at most as there are elements. -/
lemma right_of_table (hwithin : ∀ i ∈ t.accessed, i < t.ipaNumIpaInterfaces)
    (hle : t.ipaNatIfaceEntries ≤ t.ipaNumIpaInterfaces)
    (hnonempty : ∀ i < t.ipaNatIfaceEntries, (t.pNatIfaces i).ifaceName.chars ≠ [])
    (hdistinct : t.toConfig.Distinct)
    (hcheck : ∀ devName ipType, (∃ i < t.ipaNatIfaceEntries,
      (t.pNatIfaces i).ifaceName.chars = devName ∧ (t.pNatIfaces i).isUp ipType = true) ↔
        (devName, ipType) ∈ t.added) : t.Right := by
  refine ⟨hwithin, fun devName ipType i hi => ?_, hnonempty, hdistinct, fun devName ipType => ?_⟩
  · exact (Config.lt_of_mem_checkNatIfaces hi).trans_le hle
  · rw [Config.check_iff_of_distinct hdistinct]
    exact hcheck devName ipType

/-- What is right says of the table. -/
lemma Right.table (h : s.Right) : ∀ devName ipType, (∃ i < s.ipaNatIfaceEntries,
    (s.pNatIfaces i).ifaceName.chars = devName ∧ (s.pNatIfaces i).isUp ipType = true) ↔
      (devName, ipType) ∈ s.added := fun devName ipType => by
  rw [← Config.check_iff_of_distinct (s := s.toConfig) h.distinct]
  exact h.check devName ipType

/-- Adding a family to a name that is known. -/
lemma Right.add_known (h : s.Right) (hsearch : s.search devName = some i) (hmax : ipType ≠ .max) :
    (s.call (.add devName ipType)).Right := by
  obtain ⟨hi, hname⟩ := Config.search_eq_some hsearch
  have hcall : s.call (.add devName ipType) =
      { toConfig := { s.toConfig with
          pNatIfaces := Function.update s.pNatIfaces i ((s.pNatIfaces i).setUp ipType) }
        added := insert (devName, ipType) s.added
        accessed := s.accessed ++ List.range (i + 1) } := by
    rw [call, Config.addNatIfaces_of_some hsearch]
  have hnames : ∀ j, (Function.update s.pNatIfaces i ((s.pNatIfaces i).setUp ipType) j).ifaceName =
      (s.pNatIfaces j).ifaceName := by
    intro j
    rcases eq_or_ne j i with rfl | hne
    · rw [Function.update_self, ifaceName_setUp]
    · rw [Function.update_of_ne hne]
  rw [hcall]
  have hle := h.entries_le
  refine right_of_table (fun j hj => ?_) hle (fun j hj => ?_) (fun j hj k hk heq => ?_)
    fun devName' ipType' => ?_
  · rcases List.mem_append.mp hj with hj | hj
    · exact h.within j hj
    · have hlt := List.mem_range.mp hj
      dsimp only
      omega
  · dsimp only at hj ⊢
    rw [hnames]
    exact h.nonempty j hj
  · dsimp only at hj hk heq
    rw [hnames, hnames] at heq
    exact h.distinct j hj k hk heq
  · dsimp only
    rw [Finset.mem_insert, ← h.table]
    constructor
    · rintro ⟨j, hj, hchars, hup⟩
      rw [hnames] at hchars
      rcases eq_or_ne j i with rfl | hne
      · rw [Function.update_self, isUp_setUp] at hup
        rcases hup with hup | ⟨rfl, -⟩
        · exact Or.inr ⟨j, hj, hchars, hup⟩
        · exact Or.inl (by rw [← hchars, hname])
      · rw [Function.update_of_ne hne] at hup
        exact Or.inr ⟨j, hj, hchars, hup⟩
    · rintro (heq | ⟨j, hj, hchars, hup⟩)
      · obtain ⟨rfl, rfl⟩ := Prod.mk.inj heq
        refine ⟨i, hi, by rw [hnames, hname], ?_⟩
        rw [Function.update_self, isUp_setUp]
        exact Or.inr ⟨rfl, hmax⟩
      · refine ⟨j, hj, by rw [hnames, hchars], ?_⟩
        rcases eq_or_ne j i with rfl | hne
        · rw [Function.update_self, isUp_setUp]
          exact Or.inl hup
        · rwa [Function.update_of_ne hne]

/-- Adding a new name that does not fill the array. -/
lemma Right.add_new (h : s.Right) (hblank : Blank s.toConfig) (hsearch : s.search devName = none)
    (hmax : ipType ≠ .max) (hne : devName ≠ []) (hlt : devName.length < ipaIfaceNameLen)
    (hroom : s.ipaNatIfaceEntries + 1 < s.ipaNumIpaInterfaces) :
    (s.call (.add devName ipType)).Right := by
  have hcall : s.call (.add devName ipType) =
      { toConfig := { s.toConfig with
          ipaNatIfaceEntries := s.ipaNatIfaceEntries + 1
          pNatIfaces := Function.update s.pNatIfaces s.ipaNatIfaceEntries
            (NatIface.setUp { NatIface.zero with ifaceName := .strlcpy devName } ipType) }
        added := insert (devName, ipType) s.added
        accessed :=
          s.accessed ++ (List.range s.ipaNatIfaceEntries ++ [s.ipaNatIfaceEntries]) } := by
    rw [call, Config.addNatIfaces_of_none hsearch, if_pos hroom, hblank _ le_rfl (by omega)]
  set new := NatIface.setUp { NatIface.zero with ifaceName := .strlcpy devName } ipType with hnew
  have hchars : new.ifaceName.chars = devName := by
    rw [hnew, ifaceName_setUp]
    exact chars_strlcpy hlt
  have hup : ∀ ipType', new.isUp ipType' = true ↔ ipType' = ipType := by
    intro ipType'
    have hzero :
        NatIface.isUp { NatIface.zero with ifaceName := .strlcpy devName } ipType' = false := by
      cases ipType' <;> rfl
    rw [hnew, isUp_setUp, hzero]
    simp [hmax]
  have hother : ∀ j < s.ipaNatIfaceEntries, (s.pNatIfaces j).ifaceName.chars ≠ devName :=
    Config.search_eq_none.mp hsearch
  have hold : ∀ j < s.ipaNatIfaceEntries,
      Function.update s.pNatIfaces s.ipaNatIfaceEntries new j = s.pNatIfaces j :=
    fun j hj => Function.update_of_ne (by omega) ..
  have hlast : Function.update s.pNatIfaces s.ipaNatIfaceEntries new s.ipaNatIfaceEntries = new :=
    Function.update_self ..
  rw [hcall]
  refine right_of_table (fun j hj => ?_) hroom.le (fun j hj => ?_) (fun j hj k hk heq => ?_)
    fun devName' ipType' => ?_
  · rcases List.mem_append.mp hj with hj | hj
    · exact h.within j hj
    · have hle : j < s.ipaNatIfaceEntries + 1 := by
        rw [← List.range_succ] at hj
        exact List.mem_range.mp hj
      dsimp only
      omega
  · dsimp only at hj ⊢
    rcases Nat.lt_succ_iff_lt_or_eq.mp hj with hj | rfl
    · rw [hold j hj]
      exact h.nonempty j hj
    · rwa [hlast, hchars]
  · dsimp only at hj hk heq
    rcases Nat.lt_succ_iff_lt_or_eq.mp hj with hj | rfl <;>
      rcases Nat.lt_succ_iff_lt_or_eq.mp hk with hk | rfl
    · rw [hold j hj, hold k hk] at heq
      exact h.distinct j hj k hk heq
    · rw [hold j hj, hlast] at heq
      exact absurd (heq ▸ hchars) (hother j hj)
    · rw [hold k hk, hlast] at heq
      exact absurd (heq ▸ hchars) (hother k hk)
    · rfl
  · dsimp only
    rw [Finset.mem_insert, ← h.table]
    constructor
    · rintro ⟨j, hj, hname, hj'⟩
      rcases Nat.lt_succ_iff_lt_or_eq.mp hj with hj | rfl
      · rw [hold j hj] at hname hj'
        exact Or.inr ⟨j, hj, hname, hj'⟩
      · rw [hlast, hchars] at hname
        rw [hlast, hup] at hj'
        exact Or.inl (by rw [hname, hj'])
    · rintro (heq | ⟨j, hj, hname, hj'⟩)
      · obtain ⟨rfl, rfl⟩ := Prod.mk.inj heq
        exact ⟨_, Nat.lt_succ_self _, by rw [hlast, hchars], by rw [hlast, hup]⟩
      · exact ⟨j, by omega, by rwa [hold j hj], by rwa [hold j hj]⟩

/-- Deleting a name. -/
lemma Right.del (h : s.Right) : (s.call (.del devName)).Right := by
  have hle := h.entries_le
  have haccess : ∀ j ∈ s.accessed ++ List.range s.ipaNatIfaceEntries,
      j < s.ipaNumIpaInterfaces := by
    intro j hj
    rcases List.mem_append.mp hj with hj | hj
    · exact h.within j hj
    · have hlt := List.mem_range.mp hj
      omega
  cases hsearch : s.search devName with
  | none =>
      have hcall : s.call (.del devName) =
          { toConfig := s.toConfig
            added := s.added.filter fun p => p.1 ≠ devName
            accessed := s.accessed ++ List.range s.ipaNatIfaceEntries } := by
        rw [Config.search] at hsearch
        simp only [call, Config.delNatIfaces, hsearch]
      rw [hcall]
      refine right_of_table haccess hle h.nonempty h.distinct fun devName' ipType' => ?_
      rw [Finset.mem_filter, ← h.table]
      refine ⟨fun hex => ⟨hex, ?_⟩, fun hex => hex.1⟩
      rintro rfl
      obtain ⟨j, hj, hname, -⟩ := hex
      exact Config.search_eq_none.mp hsearch j hj hname
  | some i =>
      obtain ⟨hi, hname⟩ := Config.search_eq_some hsearch
      have hcall : s.call (.del devName) =
          { toConfig := { s.toConfig with
              ipaNatIfaceEntries := s.ipaNatIfaceEntries - 1
              pNatIfaces := s.moveUp i }
            added := s.added.filter fun p => p.1 ≠ devName
            accessed := s.accessed ++ List.range s.ipaNatIfaceEntries } := by
        rw [Config.search] at hsearch
        simp only [call, Config.delNatIfaces, hsearch]
      -- the entries are those before the deleted one and those behind it
      have hmove : ∀ j < s.ipaNatIfaceEntries - 1,
          s.moveUp i j = s.pNatIfaces (if j < i then j else j + 1) := by
        intro j hj
        rw [Config.moveUp_apply hi]
        split_ifs <;> rfl
      rw [hcall]
      refine right_of_table haccess (by dsimp only; omega) (fun j hj => ?_)
        (fun j hj k hk heq => ?_) fun devName' ipType' => ?_
      · dsimp only at hj ⊢
        rw [hmove j hj]
        exact h.nonempty _ (by split_ifs <;> omega)
      · dsimp only at hj hk heq
        rw [hmove j hj, hmove k hk] at heq
        have hjk := h.distinct _ (by split_ifs <;> omega) _ (by split_ifs <;> omega) heq
        split_ifs at hjk <;> omega
      · dsimp only
        rw [Finset.mem_filter, ← h.table]
        constructor
        · rintro ⟨j, hj, hchars, hup⟩
          rw [hmove j hj] at hchars hup
          refine ⟨⟨_, by split_ifs <;> omega, hchars, hup⟩, ?_⟩
          rintro rfl
          have hji := h.distinct _ (by split_ifs <;> omega) i hi
            (IfaceName.ext (hchars.trans hname.symm))
          split_ifs at hji <;> omega
        · rintro ⟨⟨j, hj, hchars, hup⟩, hne⟩
          have hji : j ≠ i := by
            rintro rfl
            exact hne (hchars.symm.trans hname)
          have hj' : (if j < i then j else j - 1) < s.ipaNatIfaceEntries - 1 := by
            split_ifs <;> omega
          have hback : (if (if j < i then j else j - 1) < i then (if j < i then j else j - 1)
              else (if j < i then j else j - 1) + 1) = j := by
            split_ifs <;> omega
          refine ⟨_, hj', ?_, ?_⟩
          · rw [hmove _ hj', hback, hchars]
          · rw [hmove _ hj', hback, hup]

/-- **What is right behind an add was fit to be added.** -/
lemma fits_of_right (hblank : Blank s.toConfig) (h : (s.call (.add devName ipType)).Right) :
    s.Fits (.add devName ipType) := by
  obtain ⟨i, hi, hname, hup⟩ := (h.table devName ipType).mpr (Finset.mem_insert_self ..)
  refine ⟨ne_max_of_isUp hup, ?_⟩
  cases hsearch : s.search devName with
  | some k => exact Or.inl (known_iff.mpr ⟨k, hsearch⟩)
  | none =>
      refine Or.inr ?_
      have hother := Config.search_eq_none.mp hsearch
      have hle := h.entries_le
      have hnonempty := h.nonempty i hi
      have hcfg : (s.call (.add devName ipType)).toConfig = (s.addNatIfaces devName ipType).1 := rfl
      rw [hcfg, Config.addNatIfaces_of_none hsearch] at hi hname hle hnonempty
      split_ifs at hi hname hle hnonempty with hroom
      · dsimp only at hi hname hnonempty
        rcases Nat.lt_succ_iff_lt_or_eq.mp hi with hlt | rfl
        · rw [Function.update_of_ne (by omega)] at hname
          exact absurd hname (hother i hlt)
        · rw [Function.update_self, ifaceName_setUp] at hname hnonempty
          exact ⟨hname ▸ hnonempty, hname ▸ IfaceName.length_lt _, hroom⟩
      · -- the name was counted and not stored
        dsimp only at hi hname hle hnonempty
        rcases Nat.lt_succ_iff_lt_or_eq.mp hi with hlt | rfl
        · exact absurd hname (hother i hlt)
        · rw [hblank _ le_rfl (by omega)] at hnonempty
          exact absurd rfl hnonempty

/-- **A call leaves the array right** just if what it adds fits. -/
lemma Right.call_iff (h : s.Right) (hblank : Blank s.toConfig) : (s.call op).Right ↔ s.Fits op := by
  cases op with
  | add devName ipType =>
      refine ⟨fits_of_right hblank, fun hfits => ?_⟩
      cases hsearch : s.search devName with
      | some i => exact h.add_known hsearch hfits.1
      | none =>
          obtain ⟨hne, hlt, hroom⟩ := hfits.2.resolve_left fun hk => by
            obtain ⟨i, hi⟩ := known_iff.mp hk
            rw [hsearch] at hi
            cases hi
          exact h.add_new hblank hsearch hfits.1 hne hlt hroom
  | del devName => exact iff_of_true h.del trivial

lemma right_init {n : ℕ} {behind : ℕ → NatIface} : (init n behind).Right :=
  right_of_table (fun _ hi => absurd hi List.not_mem_nil) (Nat.zero_le _)
    (fun _ hi => absurd hi (Nat.not_lt_zero _)) (fun _ hi => absurd hi (Nat.not_lt_zero _))
    fun _ _ => ⟨fun ⟨_, hi, _⟩ => absurd hi (Nat.not_lt_zero _), fun hmem => by simp [init] at hmem⟩

lemma blank_init {n : ℕ} {behind : ℕ → NatIface} : Blank (init n behind).toConfig :=
  fun _ _ hlt => if_pos hlt

end Logged

open Logged

/-! ## The result -/

/-- **The array stays right all along a run** just if everything that is added in the run fits. -/
theorem nat_ifaces_right_iff {n : ℕ} {behind : ℕ → NatIface} {ops : List Op} {s : Logged}
    (hr : Run Step (init n behind) ops s) :
    (∀ pre u, pre <+: ops → Run Step (init n behind) pre u → u.Right) ↔
      Run (fun s op t => s.Fits op ∧ Step s op t) (init n behind) ops s := by
  refine Run.always_iff (I := fun s => Blank s.toConfig) (P := Right)
    (fun _ _ _ _ h h' => h.symm.trans h') ?_ ?_ blank_init right_init hr
  · rintro s op t hs rfl
    exact hs.call
  · rintro s op t hs hright rfl
    exact hright.call_iff hs

/-- A call adds one name at most. -/
lemma Logged.card_names_le {s t : Logged} {ops : List Op} (hr : Run Step s ops t) :
    t.names.card ≤ s.names.card + ops.length := by
  induction hr with
  | nil => exact Nat.le_add_right _ _
  | @snoc u v ops op _ hst ih =>
      rw [List.length_append, List.length_singleton]
      obtain rfl := hst
      cases op with
      | add devName ipType =>
          have hinsert : (u.call (.add devName ipType)).names = insert devName u.names :=
            Finset.image_insert ..
          have hcard := Finset.card_insert_le devName u.names
          rw [hinsert]
          omega
      | del devName =>
          have hsub : (u.call (.del devName)).names ⊆ u.names :=
            Finset.image_subset_image (Finset.filter_subset ..)
          have hcard := Finset.card_le_card hsub
          omega

/-- **One interface is configured and its name is not stored**: it was added, and a check does not
find it. -/
theorem last_name_is_not_stored :
    ¬∀ (n : ℕ) (behind : ℕ → NatIface) (ops : List Op) (s : Logged),
      Run Step (init n behind) ops s →
      (∀ pre u, pre <+: ops → Run Step (init n behind) pre u → u.names.card ≤ n) → s.Right := by
  intro hall
  have hr : Run Step (init 1 fun _ => .zero) [.add ['w', 'l'] .v4] _ := .snoc (.nil _) rfl
  have hright := hall 1 _ _ _ hr fun pre u hpre hu => by
    have hcard := card_names_le hu
    have hlen := hpre.length_le
    have hempty : (init 1 fun _ => NatIface.zero).names = ∅ := rfl
    rw [hempty, Finset.card_empty] at hcard
    exact hcard.trans (by simpa using hlen)
  have hfound := (hright.check ['w', 'l'] .v4).mpr (Finset.mem_insert_self ..)
  exact absurd hfound (by decide)

/-- Two of three interfaces are added, one of them for both families, and the first is deleted. -/
theorem nat_ifaces_right_three : ∃ ops s, ops.length = 4 ∧
    Run Step (init 3 fun _ => .zero) ops s ∧ s.Right := by
  have hr : Run (fun s op t => s.Fits op ∧ Step s op t) (init 3 fun _ => .zero)
      [.add ['w', 'l'] .v4, .add ['r', 'm'] .v4, .add ['r', 'm'] .v6, .del ['w', 'l']] _ :=
    .snoc (.snoc (.snoc (.snoc (.nil _)
      ⟨⟨by decide, Or.inr (by decide)⟩, rfl⟩) ⟨⟨by decide, Or.inr (by decide)⟩, rfl⟩)
      ⟨⟨by decide, Or.inl ⟨1, by decide, by decide⟩⟩, rfl⟩) ⟨trivial, rfl⟩
  have hr' := hr.mono fun _ _ _ h => h.2
  exact ⟨_, _, rfl, hr', (nat_ifaces_right_iff hr').mpr hr _ _ List.prefix_rfl hr'⟩

end Ipacm.NatIfaces
