import OcnDevice.Gps.Timer.Kept

/-!
# The delay of a timer

`loc_timer_start` takes a delay of 64 bits, and hands it to `LocTimer::start`, which takes one of 32
bits.  So a delay from 2^32 milliseconds on is cut off, and its timer is queued too early
(`reached_iff`).  A delay below that is exact, nanoseconds and all.

The delegates are ranked by the difference of their seconds as an `int`.  It has the right sign as
long as the seconds modulo 2^32 have (`sign_intRanks_iff`), which is so for times less than 2^31
seconds apart (`inRange_of_near`); then the ranks are those that the heap is ordered by
(`intRanks_eq_ranks`).
-/

namespace Gps.Timer

/-! ## Model -/

/-- `LocTimerDelegate::ranks` for two times, with the `int` that holds the difference. -/
def Timespec.intRanks (t u : Timespec) : ℤ :=
  let rank := Int.bmod ((u.tv_sec : ℤ) - t.tv_sec) 4294967296
  if rank = 0 then Int.bmod ((u.tv_nsec : ℤ) - t.tv_nsec) 4294967296 else rank

/-- `loc_timer_start`, for its new timer: the delay becomes the `uint32_t` of `LocTimer::start`. -/
def TimerSys.locTimerStart (s : TimerSys) (client : ℕ) (read : Timespec) (msec : UInt64)
    (wake_on_expire : Bool) : TimerSys × Option LocTimerDelegate :=
  s.start client read msec.toUInt32.toNat wake_on_expire

/-! ## Statement -/

/-- A delay, and the time at which it is given. -/
structure Delay where
  read : Timespec
  msec : UInt64

/-- The time that the delay means. -/
def Delay.due (x : Delay) : Timespec := x.read.later x.msec.toNat

/-- **Two timers are queued right**: for a time that is not before the end of the delay, with
normalized nanoseconds, and ranked in the order of their times. -/
structure QueuedRight (x y : Delay) (d e : LocTimerDelegate) : Prop where
  reached : x.read.ns + x.msec.toNat * 1000000 ≤ d.mFutureTime.ns ∧
    y.read.ns + y.msec.toNat * 1000000 ≤ e.mFutureTime.ns
  normalized : d.mFutureTime.tv_nsec < 1000000000 ∧ e.mFutureTime.tv_nsec < 1000000000
  ranked : (d.mFutureTime.intRanks e.mFutureTime).sign =
    ((e.mFutureTime.ns : ℤ) - d.mFutureTime.ns).sign

/-- The seconds between two times, modulo 2^32, are on the side of the `int` they should be on;
where they are none, the nanoseconds are. -/
def Timespec.InRange (t u : Timespec) : Prop :=
  let sec := (u.tv_sec : ℤ) - t.tv_sec
  sec = 0 ∨ (0 < sec ∧ (0 < sec % 4294967296 ∧ sec % 4294967296 < 2147483648 ∨
      sec % 4294967296 = 0 ∧ t.tv_nsec < u.tv_nsec)) ∨
    (sec < 0 ∧ (2147483648 ≤ sec % 4294967296 ∨ sec % 4294967296 = 0 ∧ u.tv_nsec < t.tv_nsec))

/-! ## Ranks -/

section Ranks

variable {t u : Timespec}

/-- Less than 68 years are always in range. -/
lemma inRange_of_near (h : |(u.tv_sec : ℤ) - t.tv_sec| < 2147483648) : t.InRange u := by
  rw [abs_lt] at h
  simp only [Timespec.InRange]
  omega

/-- **The ranks are those of the heap** for times that are not too far apart. -/
lemma intRanks_eq_ranks (h : |(u.tv_sec : ℤ) - t.tv_sec| < 2147483648) :
    t.intRanks u = t.ranks u := by
  have ht := t.tv_nsec_lt
  have hu := u.tv_nsec_lt
  rw [abs_lt] at h
  simp only [Timespec.intRanks, Timespec.ranks, Int.bmod_def]
  split_ifs <;> omega

lemma sign_eq_sign_iff {a b : ℤ} : a.sign = b.sign ↔ (0 < a ↔ 0 < b) ∧ (a < 0 ↔ b < 0) := by
  rcases lt_trichotomy a 0 with ha | rfl | ha <;> rcases lt_trichotomy b 0 with hb | rfl | hb <;>
    simp [Int.sign_eq_neg_one_of_neg, Int.sign_eq_one_of_pos, *] <;> omega

/-- The nanoseconds between two times have the sign of the seconds, if these are not the same. -/
lemma ns_lt_iff : t.ns < u.ns ↔
    t.tv_sec < u.tv_sec ∨ (t.tv_sec = u.tv_sec ∧ t.tv_nsec < u.tv_nsec) := by
  have ht := t.tv_nsec_lt
  have hu := u.tv_nsec_lt
  rw [Timespec.ns, Timespec.ns]
  omega

/-- **The ranks have the sign of the time between** just if the seconds are in range. -/
lemma sign_intRanks_iff : (t.intRanks u).sign = ((u.ns : ℤ) - t.ns).sign ↔ t.InRange u := by
  have ht := t.tv_nsec_lt
  have hu := u.tv_nsec_lt
  have hpos : 0 < (u.ns : ℤ) - t.ns ↔ _ := (by omega : _ ↔ t.ns < u.ns).trans ns_lt_iff
  have hneg : (u.ns : ℤ) - t.ns < 0 ↔ _ := (by omega : _ ↔ u.ns < t.ns).trans ns_lt_iff
  rw [sign_eq_sign_iff, hpos, hneg]
  simp only [Timespec.intRanks, Timespec.InRange, Int.bmod_def]
  split_ifs <;> omega

end Ranks

/-! ## Delays -/

section Queued

variable {s s' : TimerSys} {client client' : ℕ} {wake wake' : Bool} {x y : Delay}

/-- The timer of a delay is queued for the delay that 32 bits leave of it. -/
lemma locTimerStart_eq (x : Delay) (wake : Bool) (h : s.mTimer client = none) :
    (s.locTimerStart client x.read x.msec wake).2 =
        some ⟨s.fresh, client, wake, x.read.later x.msec.toUInt32.toNat⟩ ∧
      (s.locTimerStart client x.read x.msec wake).1.msgs = s.msgs ++
        [.timerPush ⟨s.fresh, client, wake, x.read.later x.msec.toUInt32.toNat⟩] := by
  rw [TimerSys.locTimerStart, TimerSys.start_none h]
  exact ⟨rfl, rfl⟩

lemma toNat_toUInt32 {msec : UInt64} : msec.toUInt32.toNat = msec.toNat % 4294967296 := by
  rw [UInt64.toNat_toUInt32]

/-- **The end of the delay is reached** just if 32 bits hold the delay. -/
lemma reached_iff : x.read.ns + x.msec.toNat * 1000000 ≤
    (x.read.later x.msec.toUInt32.toNat).ns ↔ x.msec.toNat < 4294967296 := by
  rw [Timespec.ns_later, toNat_toUInt32]
  omega

/-- A delay of 32 bits is exact. -/
lemma later_eq_due (h : x.msec.toNat < 4294967296) :
    x.read.later x.msec.toUInt32.toNat = x.due := by
  rw [toNat_toUInt32, Nat.mod_eq_of_lt h, Delay.due]

/-- The ends of delays that are given at the same time are in range. -/
lemma inRange_due (hx : x.msec.toNat < 4294967296) (hy : y.msec.toNat < 4294967296)
    (hread : y.read = x.read) : x.due.InRange y.due := by
  have hsec : ∀ {t : Timespec} {ms : ℕ}, ms < 4294967296 →
      t.tv_sec ≤ (t.later ms).tv_sec ∧ (t.later ms).tv_sec < t.tv_sec + 2147483648 := by
    intro t ms hms
    have ht := t.tv_nsec_lt
    simp only [Timespec.later]
    split_ifs <;> dsimp only <;> omega
  have hxsec := hsec (t := x.read) hx
  have hysec := hsec (t := x.read) hy
  refine inRange_of_near ?_
  rw [Delay.due, Delay.due, hread, abs_lt]
  omega

/-- **How timers are queued.**  Two new timers are started, whatever the time and the delay: they
are queued right just if both delays are below 2^32 milliseconds and the seconds between the ends
of the delays are in range. -/
theorem queued_right_iff (s s' : TimerSys) (client client' : ℕ) (wake wake' : Bool) (x y : Delay)
    (h : s.mTimer client = none) (h' : s'.mTimer client' = none) :
    ∃ d e, (s.locTimerStart client x.read x.msec wake).2 = some d ∧
      .timerPush d ∈ (s.locTimerStart client x.read x.msec wake).1.msgs ∧
      (s'.locTimerStart client' y.read y.msec wake').2 = some e ∧
      .timerPush e ∈ (s'.locTimerStart client' y.read y.msec wake').1.msgs ∧
      (QueuedRight x y d e ↔
        x.msec.toNat < 4294967296 ∧ y.msec.toNat < 4294967296 ∧ x.due.InRange y.due) := by
  obtain ⟨hd, hdmsg⟩ := locTimerStart_eq x wake h
  obtain ⟨he, hemsg⟩ := locTimerStart_eq y wake' h'
  refine ⟨_, _, hd, by rw [hdmsg]; simp, he, by rw [hemsg]; simp, ?_⟩
  constructor
  · rintro ⟨⟨hx, hy⟩, -, hranked⟩
    have hx := reached_iff.mp hx
    have hy := reached_iff.mp hy
    rw [later_eq_due hx, later_eq_due hy] at hranked
    exact ⟨hx, hy, sign_intRanks_iff.mp hranked⟩
  · rintro ⟨hx, hy, hrange⟩
    refine ⟨⟨reached_iff.mpr hx, reached_iff.mpr hy⟩,
      ⟨Timespec.tv_nsec_lt _, Timespec.tv_nsec_lt _⟩, ?_⟩
    rw [later_eq_due hx, later_eq_due hy]
    exact sign_intRanks_iff.mpr hrange

/-- **A delay of 2^32 milliseconds is none**: its timer is queued for the time it is given at. -/
theorem long_delay_is_cut_off :
    ¬∀ (s s' : TimerSys) (client client' : ℕ) (wake wake' : Bool) (x y : Delay)
      (d e : LocTimerDelegate), s.mTimer client = none → s'.mTimer client' = none →
      (s.locTimerStart client x.read x.msec wake).2 = some d →
      (s'.locTimerStart client' y.read y.msec wake').2 = some e → QueuedRight x y d e := by
  intro hall
  let x : Delay := ⟨⟨1, 0, by decide⟩, 4294967296⟩
  have hstart := (@locTimerStart_eq .init 1 x false rfl).1
  have hright := hall .init .init 1 1 false false x x _ _ rfl rfl hstart hstart
  have hlt : x.msec.toNat < 4294967296 := reached_iff.mp hright.reached.1
  exact lt_irrefl _ hlt

/-- Two delays that are given at the same time, one of them the longest that is exact. -/
theorem queued_right_longest :
    ∃ d e, (TimerSys.init.locTimerStart 1 ⟨1, 999999999, by decide⟩ 4294967295 false).2 = some d ∧
      (TimerSys.init.locTimerStart 1 ⟨1, 999999999, by decide⟩ 1 true).2 = some e ∧
      QueuedRight ⟨⟨1, 999999999, by decide⟩, 4294967295⟩ ⟨⟨1, 999999999, by decide⟩, 1⟩ d e := by
  obtain ⟨d, e, hd, -, he, -, hiff⟩ := queued_right_iff .init .init 1 1 false true
    ⟨⟨1, 999999999, by decide⟩, 4294967295⟩ ⟨⟨1, 999999999, by decide⟩, 1⟩ rfl rfl
  exact ⟨d, e, hd, he, hiff.mpr ⟨by decide, by decide, inRange_due (by decide) (by decide) rfl⟩⟩

end Queued

end Gps.Timer
