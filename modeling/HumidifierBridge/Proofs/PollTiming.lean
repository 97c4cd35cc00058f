import HumidifierBridge.Bridge.Loop
import Mathlib.Order.Monotone.Basic
import Mathlib.Tactic.Linarith

/-!
# When the appliance is polled

A `PollRun` is all that the schedule sees of the poll loop: when it ticks, and, where a tick starts
a poll, when that is finished, what became of it, and the reload interval from then on. Nothing is
said about how regular the ticks are, or how long a poll takes. A run goes on for ever; that of a
loop which is stopped is the beginning of one.

The schedule looks at the clock on some ticks (`PollRun.Looks`) and polls on some of these
(`PollRun.Polls`). `PollRun.timed` says how far apart they are. It rests on what the schedule keeps
between a poll and the next (`PollRun.Awaits`): it knows when that is due, and it last looked at the
clock before then. So a tick that comes late enough finds the spacing kept and polls.
-/

namespace HumidifierBridge

/-- A tick of the poll loop, and what a poll that it starts comes to. -/
structure Tick where
  time : Time
  /-- When the poll is finished. -/
  finish : Time
  outcome : PollOutcome
  /-- The reload interval from then on. -/
  reload : Nat
  time_le_finish : time ≤ finish
  le_reload : 1000 ≤ reload

namespace Tick

/-- How long the poll after this one is waited for, if the clock can count that. -/
def wait (t : Tick) : Time :=
  match t.outcome with
  | .failed => 60000
  | .changed => t.reload
  | .unchanged => t.reload

/-- When the poll after this one is due, on a clock with a limit. -/
def due (limit : Time) (t : Tick) : Time := Schedule.dueAfter limit t.finish t.wait

theorem delay_eq_wait (t : Tick) : Schedule.delay t.outcome t.reload = t.wait := by
  unfold Schedule.delay wait
  cases t.outcome <;> rfl

theorem wait_of_ne_failed {t : Tick} (h : t.outcome ≠ .failed) : t.wait = t.reload := by
  unfold wait
  cases houtcome : t.outcome with
  | failed => exact absurd houtcome h
  | changed => rfl
  | unchanged => rfl

theorem wait_of_failed {t : Tick} (h : t.outcome = .failed) : t.wait = 60000 := by
  simp only [wait, h]

theorem wait_pos (t : Tick) : 0 < t.wait := by
  have hreload : 0 < (t.reload : Int) := by
    have := t.le_reload
    omega
  unfold wait
  cases t.outcome with
  | failed => exact (by decide : (0 : Int) < 60000)
  | changed => exact hreload
  | unchanged => exact hreload

theorem finish_lt_due (limit : Time) (t : Tick) : t.finish < t.due limit :=
  Schedule.lt_dueAfter t.wait_pos limit t.finish

theorem due_of_failed {t : Tick} (h : t.outcome = .failed) (limit : Time) :
    t.due limit = t.finish + 60000 := by
  rw [due, wait_of_failed h]
  exact Schedule.dueAfter_retryDelay limit t.finish

theorem due_of_counted {t : Tick} {limit : Time} (h : t.outcome ≠ .failed)
    (hcounted : t.finish + t.reload < limit) : t.due limit = t.finish + t.reload := by
  rw [due, wait_of_ne_failed h, Schedule.dueAfter_of_lt hcounted]

theorem due_of_uncounted {t : Tick} {limit : Time} (h : limit ≤ t.finish + t.reload) :
    t.due limit = t.finish + 60000 := by
  by_cases houtcome : t.outcome = .failed
  · exact due_of_failed houtcome limit
  · rw [due, wait_of_ne_failed houtcome, Schedule.dueAfter_of_not_lt (not_lt.2 h)]
    rfl

end Tick

namespace Schedule

/-- The schedule looks at the clock. -/
def Looks (s : Schedule) (now : Time) : Prop := (s.shouldCheck now).2 = true

/-- The schedule asks for a poll. -/
def Polls (s : Schedule) (now : Time) : Prop := (s.check now).2 = true

instance (s : Schedule) (now : Time) : Decidable (s.Looks now) :=
  inferInstanceAs (Decidable (_ = true))

instance (s : Schedule) (now : Time) : Decidable (s.Polls now) :=
  inferInstanceAs (Decidable (_ = true))

/-- Takes a tick, and the poll that it starts. -/
def take (s : Schedule) (t : Tick) : Schedule :=
  let (s, polls) := s.check t.time
  if polls then s.putOff t.outcome t.finish t.reload else s

variable {s : Schedule} {now : Time}

theorem looks_iff : s.Looks now ↔ ∀ last ∈ s.lastCheck, last + 10000 ≤ now := by
  unfold Looks shouldCheck
  cases hlast : s.lastCheck with
  | none => simp
  | some last =>
    have hspaced : minSpacing ≤ now - last ↔ last + 10000 ≤ now := by
      constructor <;> intro h <;> simp only [minSpacing] at * <;> linarith
    by_cases h : last + 10000 ≤ now <;> simp [hspaced, h]

theorem shouldCheck_fst (s : Schedule) (now : Time) :
    (s.shouldCheck now).1 = if s.Looks now then { s with lastCheck := some now } else s := by
  unfold Looks shouldCheck
  split <;> rfl

theorem polls_iff : s.Polls now ↔ s.Looks now ∧ ∀ due ∈ s.nextDue, due ≤ now := by
  have hdue : (s.shouldCheck now).1.nextDue = s.nextDue := by
    rw [shouldCheck_fst]
    split <;> rfl
  cases h : s.nextDue <;> simp [Polls, Looks, check, isDue, hdue, h]

/-- All that a tick does: a look is noted, and a poll puts the next one off. -/
theorem take_eq (s : Schedule) (t : Tick) : s.take t =
    { s with
      lastCheck := if s.Looks t.time then some t.time else s.lastCheck
      nextDue := if s.Polls t.time then some (t.due s.clockLimit) else s.nextDue } := by
  have hcheck : (s.check t.time).1 =
      if s.Looks t.time then { s with lastCheck := some t.time } else s :=
    s.shouldCheck_fst t.time
  by_cases hpolls : s.Polls t.time
  · have hlooks : s.Looks t.time := (polls_iff.1 hpolls).1
    have htaken : s.take t = (s.check t.time).1.putOff t.outcome t.finish t.reload := if_pos hpolls
    rw [htaken, hcheck, if_pos hlooks, if_pos hlooks, if_pos hpolls, putOff, t.delay_eq_wait]
    rfl
  · have htaken : s.take t = (s.check t.time).1 := if_neg hpolls
    rw [htaken, hcheck, if_neg hpolls]
    split <;> rfl

/-- The schedule after the first of some ticks, on a clock with a limit. -/
def after (clockLimit : Time) (tick : Nat → Tick) : Nat → Schedule
  | 0 => { clockLimit }
  | n + 1 => (after clockLimit tick n).take (tick n)

end Schedule

/-- A run of the poll loop from its start. -/
structure PollRun where
  /-- The least time that the clock cannot count. -/
  clockLimit : Time
  tick : Nat → Tick
  ordered : ∀ n, (tick n).time ≤ (tick (n + 1)).time
  /-- A poll is finished before the next tick. -/
  finish_le : ∀ n, (Schedule.after clockLimit tick n).Polls (tick n).time →
    (tick n).finish ≤ (tick (n + 1)).time

namespace PollRun

variable (r : PollRun)

/-- When a tick comes. -/
def time (n : Nat) : Time := (r.tick n).time

/-- The schedule before a tick. -/
def schedule (n : Nat) : Schedule := Schedule.after r.clockLimit r.tick n

/-- On a tick the schedule looks at the clock. -/
def Looks (n : Nat) : Prop := (r.schedule n).Looks (r.time n)

/-- A tick starts a poll. -/
def Polls (n : Nat) : Prop := (r.schedule n).Polls (r.time n)

instance (n : Nat) : Decidable (r.Looks n) := inferInstanceAs (Decidable (Schedule.Looks _ _))

instance (n : Nat) : Decidable (r.Polls n) := inferInstanceAs (Decidable (Schedule.Polls _ _))

/-- When the poll is due that follows the one a tick starts. -/
def due (n : Nat) : Time := (r.tick n).due r.clockLimit

/-- One tick starts a poll, and another the poll after that. -/
structure NextPoll (i j : Nat) : Prop where
  lt : i < j
  first : r.Polls i
  second : r.Polls j
  none_between : ∀ k, i < k → k < j → ¬ r.Polls k

/-- From one tick to another, ticks are at most so far apart. -/
def GapsWithin (gap : Time) (i j : Nat) : Prop :=
  ∀ k, i ≤ k → k < j → r.time (k + 1) ≤ r.time k + gap

/-- What the schedule keeps from a poll to the next. -/
structure Awaits (i n : Nat) : Prop where
  nextDue : (r.schedule n).nextDue = some (r.due i)
  /-- It last looked at the clock before the next poll was due. -/
  lastCheck : ∃ last ∈ (r.schedule n).lastCheck, last < r.due i

/-- How polls and looks at the clock are spaced. -/
structure Timed : Prop where
  first : r.Polls 0
  looks_apart : ∀ i j, i < j → r.Looks i → r.Looks j → r.time i + 10000 ≤ r.time j
  polls_apart : ∀ i j, i < j → r.Polls i → r.Polls j → r.time i + 10000 ≤ r.time j
  /-- After a success the reload interval passes, which ends at a time that the clock can count. -/
  after_success : ∀ i j, r.NextPoll i j → (r.tick i).outcome ≠ .failed →
    (r.tick i).finish + (r.tick i).reload < r.clockLimit →
      (r.tick i).finish + (r.tick i).reload ≤ r.time j
  after_failure : ∀ i j, r.NextPoll i j → (r.tick i).outcome = .failed →
    (r.tick i).finish + 60000 ≤ r.time j
  /-- An interval that ends later than that is as a failure. -/
  after_uncounted : ∀ i j, r.NextPoll i j → r.clockLimit ≤ (r.tick i).finish + (r.tick i).reload →
    (r.tick i).finish + 60000 ≤ r.time j
  /-- The next poll starts less than ten seconds and a gap after it is due, where the gaps are those
  from the end of the poll before to the first tick, and from then on those between ticks. -/
  in_time : ∀ i j gap, r.NextPoll i j → r.time (i + 1) ≤ (r.tick i).finish + gap →
    r.GapsWithin gap (i + 1) j → r.due i ≤ r.time j ∧ r.time j < r.due i + 10000 + gap
  /-- Only on the first tick can it start later than gaps between ticks explain. -/
  in_time_of_later : ∀ i j gap, r.NextPoll i j → i + 1 < j → r.GapsWithin gap (i + 1) j →
    r.time j < r.due i + 10000 + gap
  /-- It does start: a tick ten seconds after it is due does not come before it. -/
  comes : ∀ i k, r.Polls i → i < k → r.due i + 10000 ≤ r.time k → ∃ j ≤ k, r.NextPoll i j

variable {r} {i j k n : Nat}

theorem time_mono (h : i ≤ j) : r.time i ≤ r.time j := monotone_nat_of_le_succ r.ordered h

theorem lastCheck_succ (r : PollRun) (n : Nat) : (r.schedule (n + 1)).lastCheck =
    if r.Looks n then some (r.time n) else (r.schedule n).lastCheck :=
  congrArg Schedule.lastCheck ((r.schedule n).take_eq (r.tick n))

theorem clockLimit_schedule (r : PollRun) (n : Nat) :
    (r.schedule n).clockLimit = r.clockLimit := by
  induction n with
  | zero => rfl
  | succ n ih => rw [← ih, schedule, Schedule.after, Schedule.take_eq, ← schedule]

theorem nextDue_succ (r : PollRun) (n : Nat) : (r.schedule (n + 1)).nextDue =
    if r.Polls n then some (r.due n) else (r.schedule n).nextDue := by
  rw [due, ← r.clockLimit_schedule n]
  exact congrArg Schedule.nextDue ((r.schedule n).take_eq (r.tick n))

theorem Polls.looks (h : r.Polls n) : r.Looks n := (Schedule.polls_iff.1 h).1

/-- The schedule last looked at the clock on a tick or later. -/
theorem le_lastCheck (hlooks : r.Looks i) (h : i < n) :
    ∃ last ∈ (r.schedule n).lastCheck, r.time i ≤ last := by
  induction n, h using Nat.le_induction with
  | base => exact ⟨r.time i, by rw [lastCheck_succ, if_pos hlooks]; rfl, le_rfl⟩
  | succ n h ih =>
    rw [lastCheck_succ]
    split
    · exact ⟨r.time n, rfl, time_mono (Nat.le_of_succ_le h)⟩
    · exact ih

/-- Looks at the clock are spaced. -/
theorem looks_apart (h : i < j) (hi : r.Looks i) (hj : r.Looks j) :
    r.time i + 10000 ≤ r.time j := by
  obtain ⟨last, hlast, hle⟩ := le_lastCheck hi h
  have hspaced := Schedule.looks_iff.1 hj last hlast
  linarith

/-! ### From a poll to the next -/

theorem time_lt_due (r : PollRun) (i : Nat) : r.time i < r.due i :=
  Int.lt_of_le_of_lt (r.tick i).time_le_finish ((r.tick i).finish_lt_due r.clockLimit)

theorem Awaits.polls_iff (h : r.Awaits i n) : r.Polls n ↔ r.Looks n ∧ r.due i ≤ r.time n := by
  rw [Polls, Schedule.polls_iff, h.nextDue]
  simp [Looks]

/-- A look that starts no poll comes before the poll is due. -/
theorem Awaits.lt_due_of_looks (h : r.Awaits i n) (hn : ¬ r.Polls n) (hlooks : r.Looks n) :
    r.time n < r.due i :=
  Int.not_le.1 fun hdue => hn (h.polls_iff.2 ⟨hlooks, hdue⟩)

theorem Polls.awaits_succ (h : r.Polls i) : r.Awaits i (i + 1) where
  nextDue := by rw [nextDue_succ, if_pos h]
  lastCheck := ⟨r.time i, by rw [lastCheck_succ, if_pos h.looks]; rfl, r.time_lt_due i⟩

theorem Awaits.succ (h : r.Awaits i n) (hn : ¬ r.Polls n) : r.Awaits i (n + 1) where
  nextDue := by rw [nextDue_succ, if_neg hn, h.nextDue]
  lastCheck := by
    rw [lastCheck_succ]
    split
    case isTrue hlooks => exact ⟨r.time n, rfl, h.lt_due_of_looks hn hlooks⟩
    case isFalse => exact h.lastCheck

theorem awaits (hi : r.Polls i) (h : i < n) (hnone : ∀ k, i < k → k < n → ¬ r.Polls k) :
    r.Awaits i n := by
  induction n, h using Nat.le_induction with
  | base => exact hi.awaits_succ
  | succ n h ih =>
    have hawaits := ih fun k hik hkn => hnone k hik (Nat.lt_succ_of_lt hkn)
    exact hawaits.succ (hnone n h (Nat.lt_succ_self n))

theorem NextPoll.awaits (h : r.NextPoll i j) : r.Awaits i j :=
  PollRun.awaits h.first h.lt h.none_between

/-- A tick that starts no poll does not come late. -/
theorem Awaits.time_lt (h : r.Awaits i n) (hn : ¬ r.Polls n) : r.time n < r.due i + 10000 := by
  by_cases hlooks : r.Looks n
  · have hdue := h.lt_due_of_looks hn hlooks
    linarith
  · obtain ⟨last, hlast, hlt⟩ := h.lastCheck
    have hclose : ¬ last + 10000 ≤ r.time n := fun hspaced => by
      refine hlooks (Schedule.looks_iff.2 fun last' hlast' => ?_)
      rwa [Option.mem_unique hlast' hlast]
    linarith

theorem NextPoll.due_le (h : r.NextPoll i j) : r.due i ≤ r.time j :=
  (h.awaits.polls_iff.1 h.second).2

theorem NextPoll.time_lt_of_later {gap : Time} (h : r.NextPoll i j) (hlater : i + 1 < j)
    (hgaps : r.GapsWithin gap (i + 1) j) : r.time j < r.due i + 10000 + gap := by
  -- The tick before started no poll, and so did not come late.
  obtain ⟨p, rfl⟩ := Nat.exists_eq_succ_of_ne_zero (Nat.ne_zero_of_lt hlater)
  have hip : i < p := Nat.lt_of_succ_lt_succ hlater
  have hawaits : r.Awaits i p := PollRun.awaits h.first hip fun k hik hkp =>
    h.none_between k hik (Nat.lt_succ_of_lt hkp)
  have hbefore := hawaits.time_lt (h.none_between p hip (Nat.lt_succ_self p))
  have hnext := hgaps p hip (Nat.lt_succ_self p)
  linarith

theorem NextPoll.time_lt {gap : Time} (h : r.NextPoll i j)
    (hfirst : r.time (i + 1) ≤ (r.tick i).finish + gap) (hgaps : r.GapsWithin gap (i + 1) j) :
    r.time j < r.due i + 10000 + gap := by
  obtain rfl | hlater := Nat.eq_or_lt_of_le h.lt
  · have hfinish : (r.tick i).finish < r.due i := (r.tick i).finish_lt_due r.clockLimit
    linarith
  · exact h.time_lt_of_later hlater hgaps

theorem exists_nextPoll (hi : r.Polls i) (h : i < k) (hlate : r.due i + 10000 ≤ r.time k) :
    ∃ j ≤ k, r.NextPoll i j := by
  have hsome : ∃ j, i < j ∧ j ≤ k ∧ r.Polls j := by
    by_contra hnone
    have hno : ∀ j, i < j → j ≤ k → ¬ r.Polls j := fun j hij hjk hj => hnone ⟨j, hij, hjk, hj⟩
    have hawaits := awaits hi h fun j hij hjk => hno j hij hjk.le
    have hearly := hawaits.time_lt (hno k h le_rfl)
    linarith
  obtain ⟨hij, hjk, hj⟩ := Nat.find_spec hsome
  refine ⟨Nat.find hsome, hjk, hij, hi, hj, fun m him hmj hm => ?_⟩
  exact Nat.find_min hsome hmj ⟨him, hmj.le.trans hjk, hm⟩

/-- **Polls are made in time, and not too often.** -/
theorem timed (r : PollRun) : r.Timed where
  first := rfl
  looks_apart _ _ h hi hj := looks_apart h hi hj
  polls_apart _ _ h hi hj := looks_apart h hi.looks hj.looks
  after_success _ _ h houtcome hcounted := Tick.due_of_counted houtcome hcounted ▸ h.due_le
  after_failure _ _ h houtcome := Tick.due_of_failed houtcome r.clockLimit ▸ h.due_le
  after_uncounted _ _ h huncounted := Tick.due_of_uncounted huncounted ▸ h.due_le
  in_time _ _ _ h hfirst hgaps := ⟨h.due_le, h.time_lt hfirst hgaps⟩
  in_time_of_later _ _ _ h hlater hgaps := h.time_lt_of_later hlater hgaps
  comes _ _ hi h hlate := exists_nextPoll hi h hlate

/-- Ticks every five seconds, polls that take two, and a reload interval of a minute. -/
instance : Inhabited PollRun where
  default :=
    { clockLimit := 9223372036854775807000
      tick n :=
        { time := 5000 * n
          finish := 5000 * n + 2000
          outcome := .unchanged
          reload := 60000
          time_le_finish := by linarith
          le_reload := by decide }
      ordered n := by push_cast; linarith
      finish_le n _ := by push_cast; linarith }

example : (List.range 30).filter (fun n => (default : PollRun).Polls n) = [0, 14, 28] := by decide

end PollRun

/-! ### The loop itself -/

namespace PollLoop

variable {σ : Type} (b : Bridge) (line : Line σ) (t : Transport) (epoch : Time)

/-- What a poll comes to that the loop makes now. -/
def polled (l : PollLoop σ) (clock : Time) : Polled :=
  b.takePoll t l.state (line.fetchReport l.appliance).1 (epoch + clock)

theorem settings_polled (l : PollLoop σ) (clock : Time) :
    (l.polled b line t epoch clock).state.settings = l.state.settings := by
  unfold polled
  cases (line.fetchReport l.appliance).1 <;> rfl

variable {b line t epoch} {l : PollLoop σ} {clock : Time}

theorem tick_of_polls (h : l.schedule.Polls clock) : l.tick b line t epoch clock =
    ({ l with
        state := (l.polled b line t epoch clock).state
        appliance := (line.fetchReport l.appliance).2
        schedule := (l.schedule.check clock).1.putOff (l.polled b line t epoch clock).outcome clock
          l.state.settings.reload
        nextTick := following l.nextTick clock }, some (l.polled b line t epoch clock)) :=
  if_pos h

theorem tick_of_not_polls (h : ¬ l.schedule.Polls clock) : l.tick b line t epoch clock =
    ({ l with
        schedule := (l.schedule.check clock).1
        nextTick := following l.nextTick clock }, none) :=
  if_neg h

variable (b line t epoch)

theorem settings_tick (l : PollLoop σ) (clock : Time) :
    (l.tick b line t epoch clock).1.state.settings = l.state.settings := by
  by_cases h : l.schedule.Polls clock
  · rw [tick_of_polls h]
    exact l.settings_polled b line t epoch clock
  · rw [tick_of_not_polls h]

/-- The loop after the first of some ticks, which come at times of the clock. -/
def after (l : PollLoop σ) (clock : Nat → Time) : Nat → PollLoop σ
  | 0 => l
  | n + 1 => ((after l clock n).tick b line t epoch (clock n)).1

theorem settings_after (l : PollLoop σ) (clock : Nat → Time) (n : Nat) :
    (l.after b line t epoch clock n).state.settings = l.state.settings := by
  induction n with
  | zero => rfl
  | succ n ih => rw [after, settings_tick, ih]

variable (l : PollLoop σ) (clock : Nat → Time) (ordered : ∀ n, clock n ≤ clock (n + 1))
  (le_reload : 1000 ≤ l.state.settings.reload)

/-- The run of a loop whose polls are finished as soon as they start. -/
def pollRun : PollRun where
  clockLimit := l.schedule.clockLimit
  tick n :=
    { time := clock n
      finish := clock n
      outcome := ((l.after b line t epoch clock n).polled b line t epoch (clock n)).outcome
      reload := l.state.settings.reload
      time_le_finish := Int.le_refl _
      le_reload }
  ordered
  finish_le n _ := ordered n

/-- The loop has the schedule of its run. -/
theorem schedule_pollRun (hstart : l.schedule = { clockLimit := l.schedule.clockLimit })
    (n : Nat) :
    (l.pollRun b line t epoch clock ordered le_reload).schedule n =
      (l.after b line t epoch clock n).schedule := by
  induction n with
  | zero => exact hstart.symm
  | succ n ih =>
    rw [PollRun.schedule, Schedule.after, ← PollRun.schedule, ih, after]
    by_cases h : (l.after b line t epoch clock n).schedule.Polls (clock n)
    · rw [tick_of_polls h, settings_after]
      exact if_pos h
    · rw [tick_of_not_polls h]
      exact if_neg h

/-- The loop polls on the ticks on which its run does. -/
theorem polls_pollRun_iff (hstart : l.schedule = { clockLimit := l.schedule.clockLimit })
    (n : Nat) :
    (l.pollRun b line t epoch clock ordered le_reload).Polls n ↔
      ((l.after b line t epoch clock n).tick b line t epoch (clock n)).2.isSome = true := by
  rw [PollRun.Polls, schedule_pollRun b line t epoch l clock ordered le_reload hstart]
  by_cases h : (l.after b line t epoch clock n).schedule.Polls (clock n)
  · rw [tick_of_polls h]
    exact iff_of_true h rfl
  · rw [tick_of_not_polls h]
    exact iff_of_false h Bool.false_ne_true

end PollLoop

end HumidifierBridge
