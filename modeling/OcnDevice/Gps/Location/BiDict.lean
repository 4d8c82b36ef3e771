import Mathlib

/-!
# The two-way dictionary of the location client

`LocationAPIClientBase` keeps the ids of its client beside the sessions of the engine in a
`BiDict`: a map from ids to sessions, one back from sessions to ids, and a record for each session.
The maps are `std::map`s, and several calls reach into them with the index expression `m[k]`, which
puts a zero under `k` when there is nothing there.

What the calls are for is `bound`: an id is bound to the session and record it was last set with,
until it is removed.  `Mirrors` says that the three maps are the three views of that; `mirrors_call`
is the step, for the calls that are `Careful`, and `Faithful.careful` says that the others do go
wrong.
-/

namespace Gps.Location

/-! ## The dictionary -/

/-- `BiDict`: `mForwardMap` from ids to sessions, `mBackwardMap` from sessions to ids, `mExtMap`
from sessions to their records. -/
structure BiDict (T : Type*) where
  forwardMap : Std.ExtTreeMap ℕ ℕ
  backwardMap : Std.ExtTreeMap ℕ ℕ
  extMap : Std.ExtTreeMap ℕ T

namespace BiDict

variable {T : Type*}

/-- The dictionary as it is constructed. -/
def empty : BiDict T := ⟨∅, ∅, ∅⟩

/-- `hasId`. -/
def hasId (d : BiDict T) (id : ℕ) : Bool := d.forwardMap.contains id

/-- `hasSession`. -/
def hasSession (d : BiDict T) (session : ℕ) : Bool := d.backwardMap.contains session

/-- `set`. -/
def set (d : BiDict T) (id session : ℕ) (ext : T) : BiDict T where
  forwardMap := d.forwardMap.insert id session
  backwardMap := d.backwardMap.insert session id
  extMap := d.extMap.insert session ext

/-- `clear`. -/
def clear (_ : BiDict T) : BiDict T := empty

/-- `rmById`.  The session is read with `mForwardMap[id]`, which inserts a zero for an unknown id
before the id is erased. -/
def rmById (d : BiDict T) (id : ℕ) : BiDict T :=
  let forwardMap := d.forwardMap.insertIfNew id 0
  { forwardMap := forwardMap.erase id
    backwardMap := d.backwardMap.erase (forwardMap.getD id 0)
    extMap := d.extMap.erase (forwardMap.getD id 0) }

/-- `rmBySession`, with `mBackwardMap[session]`. -/
def rmBySession (d : BiDict T) (session : ℕ) : BiDict T :=
  let backwardMap := d.backwardMap.insertIfNew session 0
  { forwardMap := d.forwardMap.erase (backwardMap.getD session 0)
    backwardMap := backwardMap.erase session
    extMap := d.extMap.erase session }

/-- `getId`, zero for an unknown session. -/
def getId (d : BiDict T) (session : ℕ) : ℕ := d.backwardMap[session]?.getD 0

/-- `getSession`, zero for an unknown id. -/
def getSession (d : BiDict T) (id : ℕ) : ℕ := d.forwardMap[id]?.getD 0

/-- `getExtById`, with the record of zeros when there is none.  The session is read with
`mForwardMap[id]`, and the id stays in the map. -/
def getExtById [Zero T] (d : BiDict T) (id : ℕ) : T × BiDict T :=
  let forwardMap := d.forwardMap.insertIfNew id 0
  let session := forwardMap.getD id 0
  (if session > 0 then d.extMap[session]?.getD 0 else 0, { d with forwardMap := forwardMap })

/-- `getExtBySession`. -/
def getExtBySession [Zero T] (d : BiDict T) (session : ℕ) : T := d.extMap[session]?.getD 0

/-- `getAllSessions`. -/
def getAllSessions (d : BiDict T) : List ℕ := d.backwardMap.keys

end BiDict

/-- A call of a `BiDict`. -/
inductive BiDictOp (T : Type*)
  | set (id session : ℕ) (ext : T)
  | rmById (id : ℕ)
  | rmBySession (session : ℕ)
  | clear
  | hasId (id : ℕ)
  | hasSession (session : ℕ)
  | getId (session : ℕ)
  | getSession (id : ℕ)
  | getExtById (id : ℕ)
  | getExtBySession (session : ℕ)
  | getAllSessions
  deriving DecidableEq, Repr

section Calls

variable {T : Type*} [Zero T]

/-- What a call leaves behind. -/
def BiDict.call (d : BiDict T) : BiDictOp T → BiDict T
  | .set id session ext => d.set id session ext
  | .rmById id => d.rmById id
  | .rmBySession session => d.rmBySession session
  | .clear => d.clear
  | .getExtById id => (d.getExtById id).2
  | _ => d

/-- The dictionary after a sequence of calls. -/
def BiDict.after (ops : List (BiDictOp T)) : BiDict T := ops.foldl BiDict.call BiDict.empty

end Calls

/-! ## What the calls are for -/

section Purpose

variable {T : Type*}

/-- What a call does to the binding of each id. -/
def BiDictOp.rebind (b : ℕ → Option (ℕ × T)) : BiDictOp T → ℕ → Option (ℕ × T)
  | .set id session ext => Function.update b id (some (session, ext))
  | .rmById id => Function.update b id none
  | .rmBySession session => fun id => (b id).filter fun p => p.1 ≠ session
  | .clear => fun _ => none
  | _ => b

/-- The session and the record that each id was last set with, and `none` for an id that was never
set or has been removed since. -/
def bound (ops : List (BiDictOp T)) : ℕ → Option (ℕ × T) :=
  ops.foldl BiDictOp.rebind fun _ => none

/-- A call that has nothing to change: a lookup, or the removal of an unknown key. -/
def BiDictOp.Idle (d : BiDict T) : BiDictOp T → Prop
  | .set _ _ _ => False
  | .clear => False
  | .rmById id => d.hasId id = false
  | .rmBySession session => d.hasSession session = false
  | _ => True

/-- The dictionary says what the calls have bound: the two maps are inverse to each other, exactly
the sessions of the backward map have a record, the known ids are the bound ones, and a session is
resolved to the id it is bound to and to no id once it is stopped. -/
structure BiDict.Faithful (b : ℕ → Option (ℕ × T)) (d : BiDict T) : Prop where
  inverse : ∀ id session : ℕ, d.forwardMap[id]? = some session ↔ d.backwardMap[session]? = some id
  ext : ∀ session, d.extMap.contains session = d.hasSession session
  hasId : ∀ id, d.hasId id = (b id).isSome
  resolves : ∀ id session ext, b id = some (session, ext) →
    d.hasSession session = true ∧ d.getId session = id
  stopped : ∀ session, (∀ id ext, b id ≠ some (session, ext)) →
    d.hasSession session = false ∧ d.getId session = 0

/-- A call for which the maps have no wrong partner: one that sets an id does so under the partners
that the id and the session already have, if any, and one that reaches into a map with an index
expression finds the key there, or at least no partner of zero in the other map. -/
def BiDictOp.Careful (d : BiDict T) : BiDictOp T → Prop
  | .set id session _ =>
      (d.hasId id = true → d.getSession id = session) ∧
        (d.hasSession session = true → d.getId session = id)
  | .rmById id => d.hasId id = true ∨ d.hasSession 0 = false
  | .rmBySession session => d.hasSession session = true ∨ d.hasId 0 = false
  | .getExtById id => d.hasId id = true
  | _ => True

end Purpose

/-! ## The three views -/

section Views

variable {T : Type*} {b : ℕ → Option (ℕ × T)} {d : BiDict T}

/-- The three maps are the three views of what is bound. -/
structure BiDict.Mirrors (b : ℕ → Option (ℕ × T)) (d : BiDict T) : Prop where
  forward : ∀ id : ℕ, d.forwardMap[id]? = (b id).map Prod.fst
  backward : ∀ id session : ℕ, d.backwardMap[session]? = some id ↔ ∃ ext, b id = some (session, ext)
  ext : ∀ (session : ℕ) (x : T), d.extMap[session]? = some x ↔ ∃ id, b id = some (session, x)

lemma eq_none_of_not_contains {β : Type*} {m : Std.ExtTreeMap ℕ β} {k : ℕ}
    (h : m.contains k = false) : m[k]? = none := by
  rwa [Std.ExtTreeMap.contains_eq_isSome_getElem?, Option.isSome_eq_false_iff,
    Option.isNone_iff_eq_none] at h

lemma mem_iff_exists {β : Type*} {m : Std.ExtTreeMap ℕ β} {k : ℕ} :
    m.contains k = true ↔ ∃ v, m[k]? = some v := by
  rw [← Option.isSome_iff_exists, Std.ExtTreeMap.contains_eq_isSome_getElem?]

namespace BiDict.Mirrors

/-- Two ids are never bound to one session. -/
lemma unique (h : d.Mirrors b) {id id' session : ℕ} {x x' : T} (hid : b id = some (session, x))
    (hid' : b id' = some (session, x')) : id = id' := by
  have h1 := (h.backward id session).mpr ⟨x, hid⟩
  have h2 := (h.backward id' session).mpr ⟨x', hid'⟩
  exact Option.some.inj (h1.symm.trans h2)

lemma hasId_iff (h : d.Mirrors b) (id : ℕ) : d.hasId id = (b id).isSome := by
  rw [BiDict.hasId, Std.ExtTreeMap.contains_eq_isSome_getElem?, h.forward, Option.isSome_map]

lemma hasSession_iff (h : d.Mirrors b) (session : ℕ) :
    d.hasSession session = true ↔ ∃ id ext, b id = some (session, ext) := by
  rw [BiDict.hasSession, mem_iff_exists]
  exact exists_congr fun id => h.backward id session

lemma getId_of_bound (h : d.Mirrors b) {id session : ℕ} {x : T} (hid : b id = some (session, x)) :
    d.getId session = id := by
  rw [BiDict.getId, (h.backward id session).mpr ⟨x, hid⟩, Option.getD_some]

/-- **Views of one thing agree.** -/
lemma faithful (h : d.Mirrors b) : d.Faithful b where
  inverse id session := by
    rw [h.forward, h.backward, Option.map_eq_some_iff]
    constructor
    · rintro ⟨⟨s, x⟩, hb, rfl⟩
      exact ⟨x, hb⟩
    · rintro ⟨x, hb⟩
      exact ⟨_, hb, rfl⟩
  ext session := by
    rw [Bool.eq_iff_iff, h.hasSession_iff, mem_iff_exists]
    simp only [h.ext]
    exact exists_comm
  hasId := h.hasId_iff
  resolves id session ext hid := ⟨(h.hasSession_iff session).mpr ⟨id, ext, hid⟩, h.getId_of_bound hid⟩
  stopped session hno := by
    have hnone : d.hasSession session = false := by
      rw [Bool.eq_false_iff]
      intro hs
      obtain ⟨id, ext, hid⟩ := (h.hasSession_iff session).mp hs
      exact hno id ext hid
    refine ⟨hnone, ?_⟩
    rw [BiDict.getId, eq_none_of_not_contains hnone, Option.getD_none]

lemma empty : (BiDict.empty : BiDict T).Mirrors fun _ => none := by
  constructor <;> intros <;> simp [BiDict.empty]

/-- `set` under no wrong partner. -/
lemma set (h : d.Mirrors b) {id session : ℕ} {x : T}
    (hid : d.hasId id = true → d.getSession id = session)
    (hses : d.hasSession session = true → d.getId session = id) :
    (d.set id session x).Mirrors (Function.update b id (some (session, x))) := by
  -- nobody else is bound to the session, and the id is bound to no other session
  have hother : ∀ i y, b i = some (session, y) → i = id := by
    intro i y hi
    rw [← hses ((h.hasSession_iff session).mpr ⟨i, y, hi⟩), h.getId_of_bound hi]
  have hself : ∀ s y, b id = some (s, y) → s = session := by
    intro s y hb
    rw [← hid (by rw [h.hasId_iff, hb]; rfl), BiDict.getSession, h.forward, hb]
    rfl
  constructor
  · intro i
    simp only [BiDict.set, Std.ExtTreeMap.getElem?_insert, Nat.compare_eq_eq, Function.update_apply]
    by_cases hi : id = i
    · subst hi
      simp
    · rw [if_neg hi, if_neg (Ne.symm hi), h.forward]
  · intro i s
    simp only [BiDict.set, Std.ExtTreeMap.getElem?_insert, Nat.compare_eq_eq, Function.update_apply]
    by_cases hs : session = s
    · subst hs
      rw [if_pos rfl]
      by_cases hi : i = id
      · simp [hi]
      · rw [if_neg hi]
        constructor
        · intro heq
          exact absurd (Option.some.inj heq).symm hi
        · rintro ⟨y, hy⟩
          exact absurd (hother i y hy) hi
    · rw [if_neg hs, h.backward]
      by_cases hi : i = id
      · subst hi
        rw [if_pos rfl]
        constructor
        · rintro ⟨y, hy⟩
          exact absurd (hself s y hy).symm hs
        · rintro ⟨y, hy⟩
          cases hy
          exact absurd rfl hs
      · rw [if_neg hi]
  · intro s y
    simp only [BiDict.set, Std.ExtTreeMap.getElem?_insert, Nat.compare_eq_eq, Function.update_apply]
    by_cases hs : session = s
    · subst hs
      rw [if_pos rfl]
      constructor
      · intro heq
        exact ⟨id, by rw [if_pos rfl, Option.some.inj heq]⟩
      · rintro ⟨i, hi⟩
        by_cases hii : i = id
        · rw [if_pos hii] at hi
          cases hi
          rfl
        · rw [if_neg hii] at hi
          exact absurd (hother i y hi) hii
    · rw [if_neg hs, h.ext]
      constructor
      · rintro ⟨i, hi⟩
        have hii : i ≠ id := by
          rintro rfl
          exact hs (hself s y hi).symm
        exact ⟨i, by rw [if_neg hii, hi]⟩
      · rintro ⟨i, hi⟩
        by_cases hii : i = id
        · rw [if_pos hii] at hi
          cases hi
          exact absurd rfl hs
        · rw [if_neg hii] at hi
          exact ⟨i, hi⟩

/-- The partners of an id and its session go together. -/
lemma unbind (h : d.Mirrors b) {id session : ℕ} {x : T} (hid : b id = some (session, x)) :
    BiDict.Mirrors (Function.update b id none)
      ⟨d.forwardMap.erase id, d.backwardMap.erase session, d.extMap.erase session⟩ := by
  constructor
  · intro i
    simp only [Std.ExtTreeMap.getElem?_erase, Nat.compare_eq_eq, Function.update_apply]
    by_cases hi : id = i
    · subst hi
      simp
    · rw [if_neg hi, if_neg (Ne.symm hi), h.forward]
  · intro i s
    simp only [Std.ExtTreeMap.getElem?_erase, Nat.compare_eq_eq, Function.update_apply]
    by_cases hi : i = id
    · subst hi
      simp only [if_true, reduceCtorEq, exists_false, iff_false]
      split_ifs with hs
      · exact not_false
      · rw [h.backward, hid]
        rintro ⟨y, hy⟩
        cases hy
        exact hs rfl
    · rw [if_neg hi]
      split_ifs with hs
      · subst hs
        simp only [false_iff]
        rintro ⟨y, hy⟩
        exact hi (h.unique hy hid)
      · exact h.backward i s
  · intro s y
    simp only [Std.ExtTreeMap.getElem?_erase, Nat.compare_eq_eq, Function.update_apply]
    split_ifs with hs
    · subst hs
      simp only [false_iff]
      rintro ⟨i, hi⟩
      split_ifs at hi with hii
      exact hii (h.unique hi hid)
    · rw [h.ext]
      constructor
      · rintro ⟨i, hi⟩
        refine ⟨i, ?_⟩
        rw [if_neg, hi]
        rintro rfl
        rw [hid] at hi
        cases hi
        exact hs rfl
      · rintro ⟨i, hi⟩
        split_ifs at hi
        exact ⟨i, hi⟩

end BiDict.Mirrors

/-! ## A call -/

/-- The index expression on a key that is there only reads. -/
lemma insertIfNew_of_some {β : Type*} {m : Std.ExtTreeMap ℕ β} {k : ℕ} {v z : β}
    (h : m[k]? = some v) : m.insertIfNew k z = m ∧ m.getD k z = v := by
  have hm : m.insertIfNew k z = m := by
    refine Std.ExtTreeMap.ext_getElem? fun i => ?_
    rw [Std.ExtTreeMap.getElem?_insertIfNew]
    split_ifs with hi
    · rw [Nat.compare_eq_eq] at hi
      exact absurd (mem_iff_exists.mpr ⟨v, hi.1 ▸ h⟩) (by simpa [hi.1] using hi.2)
    · rfl
  refine ⟨hm, ?_⟩
  rw [Std.ExtTreeMap.getD_eq_getD_getElem?, h, Option.getD_some]

/-- The index expression on a key that is not there, and the erasure of that key after it. -/
lemma insertIfNew_of_none {β : Type*} {m : Std.ExtTreeMap ℕ β} {k : ℕ} {z : β}
    (h : m[k]? = none) : (m.insertIfNew k z).erase k = m ∧ (m.insertIfNew k z).getD k z = z := by
  have hk : k ∉ m := by
    rw [Std.ExtTreeMap.mem_iff_isSome_getElem?, h]
    exact Bool.false_ne_true
  constructor
  · refine Std.ExtTreeMap.ext_getElem? fun i => ?_
    rw [Std.ExtTreeMap.getElem?_erase, Std.ExtTreeMap.getElem?_insertIfNew]
    by_cases hi : k = i
    · subst hi
      simp [h]
    · simp [hi]
  · rw [Std.ExtTreeMap.getD_eq_getD_getElem?, Std.ExtTreeMap.getElem?_insertIfNew]
    simp [hk]

lemma erase_of_none {β : Type*} {m : Std.ExtTreeMap ℕ β} {k : ℕ} (h : m[k]? = none) :
    m.erase k = m := by
  refine Std.ExtTreeMap.ext_getElem? fun i => ?_
  rw [Std.ExtTreeMap.getElem?_erase]
  split_ifs with hi
  · rw [Nat.compare_eq_eq] at hi
    rw [← hi, h]
  · rfl

lemma filter_other {o : Option (ℕ × T)} {session : ℕ} (h : ∀ y, o ≠ some (session, y)) :
    (o.filter fun p => p.1 ≠ session) = o := by
  rcases o with _ | ⟨s, y⟩
  · rfl
  · rw [Option.filter_some, if_pos]
    rw [decide_eq_true_eq]
    rintro rfl
    exact h y rfl

namespace BiDict

/-- `rmById` of a known id. -/
lemma rmById_of_some {id session : ℕ} (h : d.forwardMap[id]? = some session) :
    d.rmById id =
      ⟨d.forwardMap.erase id, d.backwardMap.erase session, d.extMap.erase session⟩ := by
  simp only [rmById, insertIfNew_of_some h]

/-- `rmById` of an unknown id takes session zero away. -/
lemma rmById_of_none {id : ℕ} (h : d.forwardMap[id]? = none) :
    d.rmById id = ⟨d.forwardMap, d.backwardMap.erase 0, d.extMap.erase 0⟩ := by
  simp only [rmById, insertIfNew_of_none h]

/-- `rmBySession` of a known session. -/
lemma rmBySession_of_some {id session : ℕ} (h : d.backwardMap[session]? = some id) :
    d.rmBySession session =
      ⟨d.forwardMap.erase id, d.backwardMap.erase session, d.extMap.erase session⟩ := by
  simp only [rmBySession, insertIfNew_of_some h]

/-- `rmBySession` of an unknown session takes id zero away. -/
lemma rmBySession_of_none {session : ℕ} (h : d.backwardMap[session]? = none) :
    d.rmBySession session =
      ⟨d.forwardMap.erase 0, d.backwardMap, d.extMap.erase session⟩ := by
  simp only [rmBySession, insertIfNew_of_none h]

namespace Mirrors

lemma ext_none (h : d.Mirrors b) {session : ℕ} (hs : d.hasSession session = false) :
    d.extMap[session]? = none := by
  rw [Option.eq_none_iff_forall_ne_some]
  intro x hx
  obtain ⟨id, hid⟩ := (h.ext session x).mp hx
  rw [(h.hasSession_iff session).mpr ⟨id, x, hid⟩] at hs
  exact Bool.noConfusion hs

lemma exists_bound (h : d.Mirrors b) {id : ℕ} (hid : d.hasId id = true) :
    ∃ session x, b id = some (session, x) ∧ d.forwardMap[id]? = some session := by
  rw [h.hasId_iff, Option.isSome_iff_exists] at hid
  obtain ⟨⟨session, x⟩, hb⟩ := hid
  exact ⟨session, x, hb, by rw [h.forward, hb]; rfl⟩

/-- **Nothing to change, nothing changed**, by a careful call. -/
lemma idle [Zero T] (h : d.Mirrors b) {op : BiDictOp T} (hc : op.Careful d) (hi : op.Idle d) :
    d.call op = d := by
  cases op with
  | set => exact hi.elim
  | clear => exact hi.elim
  | rmById id =>
      have hno : d.hasId id = false := hi
      rcases hc with hc | hc
      · exact Bool.noConfusion (hc.symm.trans hno)
      · rw [BiDict.call, rmById_of_none (eq_none_of_not_contains hno),
          erase_of_none (eq_none_of_not_contains hc), erase_of_none (h.ext_none hc)]
  | rmBySession session =>
      have hno : d.hasSession session = false := hi
      rcases hc with hc | hc
      · exact Bool.noConfusion (hc.symm.trans hno)
      · rw [BiDict.call, rmBySession_of_none (eq_none_of_not_contains hno),
          erase_of_none (eq_none_of_not_contains hc), erase_of_none (h.ext_none hno)]
  | getExtById id =>
      obtain ⟨session, x, -, hs⟩ := h.exists_bound hc
      simp only [BiDict.call, getExtById, insertIfNew_of_some hs]
  | hasId | hasSession | getId | getSession | getExtBySession | getAllSessions => rfl

/-- **One careful call.** -/
lemma call [Zero T] (h : d.Mirrors b) {op : BiDictOp T} (hc : op.Careful d) :
    (d.call op).Mirrors (op.rebind b) := by
  cases op with
  | set id session x => exact h.set hc.1 hc.2
  | clear => exact empty
  | rmById id =>
      by_cases hid : d.hasId id = true
      · obtain ⟨session, x, hb, hs⟩ := h.exists_bound hid
        rw [BiDict.call, rmById_of_some hs]
        exact h.unbind hb
      · have hno : d.hasId id = false := Bool.eq_false_iff.mpr hid
        have hb : Function.update b id none = b := by
          rw [h.hasId_iff, Option.isSome_eq_false_iff, Option.isNone_iff_eq_none] at hno
          rw [Function.update_eq_self_iff, hno]
        rw [h.idle hc hno, BiDictOp.rebind, hb]
        exact h
  | rmBySession session =>
      by_cases hs : d.hasSession session = true
      · obtain ⟨id, x, hb⟩ := (h.hasSession_iff session).mp hs
        have hun : (fun i => (b i).filter fun p => p.1 ≠ session) = Function.update b id none := by
          funext i
          rw [Function.update_apply]
          split_ifs with hi
          · rw [hi, hb]
            simp
          · exact filter_other fun y hy => hi (h.unique hy hb)
        rw [BiDict.call, rmBySession_of_some ((h.backward id session).mpr ⟨x, hb⟩),
          BiDictOp.rebind, hun]
        exact h.unbind hb
      · have hno : d.hasSession session = false := Bool.eq_false_iff.mpr hs
        have hun : (fun i => (b i).filter fun p => p.1 ≠ session) = b := by
          funext i
          exact filter_other fun y hy => hs ((h.hasSession_iff session).mpr ⟨i, y, hy⟩)
        rw [h.idle hc hno, BiDictOp.rebind, hun]
        exact h
  | getExtById id =>
      rw [h.idle hc trivial]
      exact h
  | hasId | hasSession | getId | getSession | getExtBySession | getAllSessions => exact h

end Mirrors

/-- **A careless call goes wrong**: it leaves maps that are not faithful, or changes something with
nothing to change. -/
lemma Mirrors.careful [Zero T] (h : d.Mirrors b) {op : BiDictOp T}
    (hf : (d.call op).Faithful (op.rebind b)) (hi : op.Idle d → d.call op = d) : op.Careful d := by
  cases op with
  | set id session x =>
      constructor
      · -- the old session of the id still leads to it
        intro hid
        obtain ⟨s, y, hb, -⟩ := h.exists_bound hid
        rw [BiDict.getSession, h.forward, hb]
        by_contra hne
        have hback : (d.set id session x).backwardMap[s]? = some id := by
          rw [BiDict.set, Std.ExtTreeMap.getElem?_insert, if_neg, (h.backward id s).mpr ⟨y, hb⟩]
          rw [Nat.compare_eq_eq]
          rintro rfl
          exact hne rfl
        have hfwd := (hf.inverse id s).mpr hback
        rw [BiDict.call, BiDict.set, Std.ExtTreeMap.getElem?_insert_self] at hfwd
        exact hne (Option.some.inj hfwd).symm
      · -- the old id of the session still leads to it
        intro hs
        obtain ⟨i, y, hb⟩ := (h.hasSession_iff session).mp hs
        rw [h.getId_of_bound hb]
        by_contra hne
        have hfwd : (d.set id session x).forwardMap[i]? = some session := by
          rw [BiDict.set, Std.ExtTreeMap.getElem?_insert, if_neg, h.forward, hb]
          · rfl
          · rw [Nat.compare_eq_eq]
            exact Ne.symm hne
        have hback := (hf.inverse i session).mp hfwd
        rw [BiDict.call, BiDict.set, Std.ExtTreeMap.getElem?_insert_self] at hback
        exact hne (Option.some.inj hback).symm
  | rmById id =>
      by_contra hno
      rw [BiDictOp.Careful, not_or, Bool.not_eq_true, Bool.not_eq_false] at hno
      have hsame := hi hno.1
      rw [BiDict.call, rmById_of_none (eq_none_of_not_contains hno.1)] at hsame
      have hzero := hno.2
      rw [← hsame, BiDict.hasSession, Std.ExtTreeMap.contains_eq_isSome_getElem?,
        Std.ExtTreeMap.getElem?_erase_self] at hzero
      exact Bool.noConfusion hzero
  | rmBySession session =>
      by_contra hno
      rw [BiDictOp.Careful, not_or, Bool.not_eq_true, Bool.not_eq_false] at hno
      have hsame := hi hno.1
      rw [BiDict.call, rmBySession_of_none (eq_none_of_not_contains hno.1)] at hsame
      have hzero := hno.2
      rw [← hsame, BiDict.hasId, Std.ExtTreeMap.contains_eq_isSome_getElem?,
        Std.ExtTreeMap.getElem?_erase_self] at hzero
      exact Bool.noConfusion hzero
  | getExtById id =>
      have hsame := hi trivial
      rw [BiDictOp.Careful, ← hsame]
      exact Std.ExtTreeMap.contains_insertIfNew_self
  | clear | hasId | hasSession | getId | getSession | getExtBySession | getAllSessions => trivial

end BiDict

end Views

/-! ## Sequences of calls -/

section Sequences

variable {T : Type*} [Zero T]

/-- What is asked of a sequence of calls: after each of its calls the dictionary says what the calls
have bound, and a call with nothing to change has changed nothing. -/
def BiDict.KeepsTrack (ops : List (BiDictOp T)) : Prop :=
  ∀ pre op, pre ++ [op] <+: ops →
    (BiDict.after (pre ++ [op])).Faithful (bound (pre ++ [op])) ∧
      (op.Idle (BiDict.after pre) → BiDict.after (pre ++ [op]) = BiDict.after pre)

/-- Every call of the sequence is careful when it is made. -/
def BiDict.AllCareful (ops : List (BiDictOp T)) : Prop :=
  ∀ pre op, pre ++ [op] <+: ops → op.Careful (BiDict.after pre)

lemma BiDict.after_snoc (ops : List (BiDictOp T)) (op : BiDictOp T) :
    BiDict.after (ops ++ [op]) = (BiDict.after ops).call op := by
  rw [BiDict.after, List.foldl_append]
  rfl

omit [Zero T] in
lemma bound_snoc (ops : List (BiDictOp T)) (op : BiDictOp T) :
    bound (ops ++ [op]) = op.rebind (bound ops) := by
  rw [bound, List.foldl_append]
  rfl

/-- After careful calls the maps are the views of what is bound. -/
lemma BiDict.mirrors_of_careful {ops : List (BiDictOp T)} (h : BiDict.AllCareful ops) :
    (BiDict.after ops).Mirrors (bound ops) := by
  induction ops using List.reverseRecOn with
  | nil => exact .empty
  | append_singleton ops op ih =>
      rw [after_snoc, bound_snoc]
      have hops := ih fun pre op' hpre => h pre op' (hpre.trans (List.prefix_append _ _))
      exact hops.call (h ops op List.prefix_rfl)

/-- **The dictionary keeps track exactly of careful calls.**  For every sequence of calls, the two
maps are inverse partial bijections and the sessions are those with a record after every call, the
known ids are those set and not removed, a session leads to the id it is bound to and to none once
it is stopped, and lookups and removals of unknown keys change nothing, if and only if no call sets
an id or a session that has another partner, none removes an unknown id while zero is a session or
an unknown session while zero is an id, and none asks for the record of an unknown id. -/
theorem bidict_keeps_track (ops : List (BiDictOp T)) :
    BiDict.KeepsTrack ops ↔ BiDict.AllCareful ops := by
  constructor
  · intro h
    -- by induction over the prefixes: as long as all was careful the maps are views
    induction ops using List.reverseRecOn with
    | nil =>
        intro pre op hpre
        simp at hpre
    | append_singleton ops op ih =>
        have hops : BiDict.AllCareful ops :=
          ih fun pre op' hpre => h pre op' (hpre.trans (List.prefix_append _ _))
        intro pre op' hpre
        rcases List.prefix_concat_iff.mp hpre with heq | hpre
        · obtain ⟨rfl, hop⟩ := List.append_inj' heq rfl
          cases hop
          obtain ⟨hf, hi⟩ := h pre op List.prefix_rfl
          rw [BiDict.after_snoc] at hf hi
          rw [bound_snoc] at hf
          exact (BiDict.mirrors_of_careful hops).careful hf hi
        · exact hops pre op' hpre
  · intro h pre op hpre
    have hpref : BiDict.AllCareful pre := fun pre' op' hpre' =>
      h pre' op' (hpre'.trans ((List.prefix_append _ _).trans hpre))
    have hm := BiDict.mirrors_of_careful hpref
    rw [BiDict.after_snoc, bound_snoc]
    exact ⟨(hm.call (h pre op hpre)).faithful, hm.idle (h pre op hpre)⟩

/-- An id that is set to a new session is still what the old session leads to. -/
theorem bidict_reset_keeps_partner :
    ¬BiDict.KeepsTrack [.set 1 10 (0 : ℕ), .set 1 11 0] := by
  intro h
  obtain ⟨hf, -⟩ := h [.set 1 10 0] (.set 1 11 0) List.prefix_rfl
  have hback := (hf.inverse 1 10).mpr (by decide +kernel)
  have hfwd : (BiDict.after [.set 1 10 (0 : ℕ), .set 1 11 0]).forwardMap[1]? = some 11 := by
    decide +kernel
  exact absurd (hfwd.symm.trans hback) (by decide)

end Sequences

end Gps.Location
