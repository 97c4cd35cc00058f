import HumidifierBridge.Proofs.Background
import HumidifierBridge.Proofs.SensorSlots
import Mathlib.Data.List.Induction

/-!
# What was read of the appliance

A `Read` is a request for the data document that was answered, with the state of the bridge at that
time. Polls read the appliance and so do scene calls: `Course.read?` is the read of a turn, and
`Course.reads` are those of several turns.

Nothing else makes known how the appliance is. `Course.known_act` says so of a turn, and
`Course.run_reads` is the induction that follows from it: what is so at the start, and stays so both
when a read is taken in and when nothing becomes known, is so after all turns. Slot by slot,
`Course.reading_run` gives the value that was read last and the time at which it was.
-/

namespace HumidifierBridge

/-! ### Values for one slot -/

namespace Reading

/-- Takes values one after the other, all at the same time. -/
def recordAll (r : Reading) (values : List Binary64) (now : Time) : Reading :=
  values.foldl (fun r value => r.record value now) r

theorem value_recordAll (r : Reading) (values : List Binary64) (now : Time) :
    (r.recordAll values now).value = values.getLast?.getD r.value := by
  induction values generalizing r with
  | nil => rfl
  | cons value rest ih =>
    have hrest := ih (r.record value now)
    rw [recordAll, List.foldl_cons, List.getLast?_cons, Option.getD_some]
    exact hrest

theorem lastQueried_recordAll (r : Reading) (values : List Binary64) (now : Time) :
    (r.recordAll values now).lastQueried = if values.isEmpty then r.lastQueried else some now := by
  induction values generalizing r with
  | nil => rfl
  | cons value rest ih =>
    have hrest := ih (r.record value now)
    rw [recordAll, List.foldl_cons, List.isEmpty_cons, if_neg Bool.false_ne_true]
    refine hrest.trans ?_
    split <;> rfl

end Reading

/-- The values that go to the sensor in a slot. -/
def Profile.valuesFor (p : Profile) (slot : Nat) (values : List (String × Binary64)) :
    List Binary64 :=
  values.filterMap fun v => if p.slotOf? v.1 = some slot then some v.2 else none

namespace BridgeState

/-- The sensor in a slot takes the values for its slot. -/
theorem getElem?_foldl_offer (now : Time) (values : List (String × Binary64)) (s : Profile × Bool)
    (slot : Nat) :
    (values.foldl (offer now) s).1.sensors[slot]? = s.1.sensors[slot]?.map fun t =>
      { t with reading := t.reading.recordAll (s.1.valuesFor slot values) now } := by
  induction values generalizing s with
  | nil => simp [Profile.valuesFor, Reading.recordAll]
  | cons v rest ih =>
    have hslots : ∀ name, (offer now s v).1.slotOf? name = s.1.slotOf? name :=
      Profile.slotOf?_of_bare (s.1.map_bare_recordReading v.1 v.2 now)
    have hrecord : (offer now s v).1.sensors[slot]? = s.1.sensors[slot]?.map fun t =>
        if s.1.slotOf? v.1 = some slot then { t with reading := t.reading.record v.2 now } else t :=
      s.1.getElem?_recordReading v.1 v.2 now slot
    rw [List.foldl_cons, ih, hrecord, Option.map_map]
    simp only [Profile.valuesFor, hslots, List.filterMap_cons]
    congr 1
    funext t
    by_cases hslot : s.1.slotOf? v.1 = some slot
    · simp [hslot, Reading.recordAll]
    · simp [hslot]

theorem getElem?_applyReport (s : BridgeState) (report : DataReport) (now : Time) (slot : Nat) :
    (s.applyReport report now).1.profile.sensors[slot]? = s.profile.sensors[slot]?.map fun t =>
      { t with reading := t.reading.recordAll (s.profile.valuesFor slot report.values) now } :=
  getElem?_foldl_offer now report.values (s.profile, false) slot

/-- What is known of the appliance: the readings, but for the times of pushes, and the operating
state. -/
def known (s : BridgeState) : List Sensor × OperatingState :=
  (s.profile.unreported.sensors, s.appliance)

end BridgeState

/-! ### Reads -/

/-- An answer to a request for the data document, and the state of the bridge before it. -/
structure Read where
  answer : Answer
  time : Time
  before : BridgeState

namespace Read

/-- The report in the answer. -/
def report? (r : Read) : Option DataReport := r.answer.report.toOption

/-- Was there a report, and did it change a sensor? -/
def isNews (r : Read) : Bool :=
  r.report?.any fun report => (r.before.applyReport report r.time).2

/-- The state once the answer was taken in. -/
def after (r : Read) : BridgeState := r.before.takeRefresh r.answer.report r.time

/-- The values that were read for the sensor in a slot. -/
def valuesFor (r : Read) (slot : Nat) : List Binary64 :=
  r.before.profile.valuesFor slot ((r.report?.map (·.values)).getD [])

/-- The sensor in a slot takes the values that were read for it, and nothing else changes it. -/
theorem getElem?_after (r : Read) (slot : Nat) :
    r.after.profile.sensors[slot]? = r.before.profile.sensors[slot]?.map fun t =>
      { t with reading := t.reading.recordAll (r.valuesFor slot) r.time } := by
  rw [after, valuesFor, report?]
  cases r.answer.report with
  | error e => simp [BridgeState.takeRefresh, Except.toOption, Profile.valuesFor, Reading.recordAll]
  | ok report => exact r.before.getElem?_applyReport report r.time slot

end Read

/-- The value that was read last for the sensor in a slot. -/
def lastValue? (reads : List Read) (slot : Nat) : Option Binary64 :=
  (reads.flatMap (·.valuesFor slot)).getLast?

/-- The last read with a value for the sensor in a slot. -/
def lastRead? (reads : List Read) (slot : Nat) : Option Read :=
  (reads.filter fun r => !(r.valuesFor slot).isEmpty).getLast?

theorem lastValue?_concat (reads : List Read) (r : Read) (slot : Nat) :
    lastValue? (reads ++ [r]) slot = (r.valuesFor slot).getLast?.or (lastValue? reads slot) := by
  simp [lastValue?]

theorem lastRead?_concat (reads : List Read) (r : Read) (slot : Nat) :
    lastRead? (reads ++ [r]) slot =
      if (r.valuesFor slot).isEmpty then lastRead? reads slot else some r := by
  by_cases hempty : (r.valuesFor slot).isEmpty = true
  · simp [lastRead?, hempty]
  · simp [lastRead?, hempty]

namespace Bridge

variable {σ : Type}

/-- A call of a scene that is in the table takes in what the appliance answers. -/
theorem state_handle_of_callsScene {b : Bridge} {event : BusEvent} {w : World σ}
    (h : b.callsScene event w.state = true) (line : Line σ) (t : Transport) (now : Time) :
    (b.handle line t event now w).world.state =
      w.state.takeRefresh (line.fetchReport w.appliance).1 now := by
  cases event with
  | callScene dsuids scene force =>
    simp only [callsScene, Bool.and_eq_true] at h
    obtain ⟨hdevice, hscene⟩ := h
    obtain ⟨spec, hspec⟩ := Option.isSome_iff_exists.1 hscene
    simp only [handle, hdevice, if_true, Line.invoke, hspec]
  | _ => cases h

/-- Any other event changes at most the zones, the scenes and what counts as announced. -/
theorem state_handle_of_not_callsScene {b : Bridge} {event : BusEvent} {w : World σ}
    (h : b.callsScene event w.state = false) (line : Line σ) (t : Transport) (now : Time) :
    ∃ zone scenes bridgeZone presence, (b.handle line t event now w).world.state =
      { w.state.configured zone scenes bridgeZone with presence } := by
  rcases b.state_handle_cases line t event now w with ⟨-, hstate⟩ | ⟨_, _, _, hstate⟩ | ⟨hcalls, -⟩
  · exact ⟨w.state.profile.zone, w.state.profile.scenes, w.state.settings.defaultZone, _, hstate⟩
  · exact ⟨_, _, _, w.state.presence, hstate⟩
  · rw [h] at hcalls
    cases hcalls

end Bridge

/-- What the appliance answers when it is asked for its data. -/
def Line.dataAnswer {σ : Type} (line : Line σ) (appliance : σ) : Answer :=
  (line.answer line.dataRequest appliance).1

theorem Line.fetchReport_fst {σ : Type} (line : Line σ) (appliance : σ) :
    (line.fetchReport appliance).1 = (line.dataAnswer appliance).report := rfl

/-- The time of a turn, if it has one. -/
def Action.time? : Action → Option Time
  | .poll _ now _ => some now
  | .refresh now => some now
  | .event _ _ now => some now
  | .work _ now _ => some now
  | _ => none

namespace Course

variable {σ : Type} (b : Bridge) (line : Line σ)

/-- The read in a turn. -/
def read? (c : Course σ) (a : Action) : Option Read :=
  let read (now : Time) : Read := ⟨line.dataAnswer c.world.appliance, now, c.state⟩
  match a with
  | .poll _ now _ => some (read now)
  | .refresh now => some (read now)
  | .event _ event now => if b.callsScene event c.state then some (read now) else none
  | _ => none

/-- The reads in several turns, in order. -/
def reads (c : Course σ) : List Action → List Read
  | [] => []
  | a :: rest => (c.read? b line a).toList ++ (c.step b line a).reads rest

variable {b line} {c : Course σ} {a : Action}

/-- A read is made at the time of its turn and meets the state of the course. -/
theorem eq_of_read? {r : Read} (h : c.read? b line a = some r) :
    a.time? = some r.time ∧ r = ⟨line.dataAnswer c.world.appliance, r.time, c.state⟩ := by
  cases a with
  | poll t now clock =>
    cases h
    exact ⟨rfl, rfl⟩
  | refresh now =>
    cases h
    exact ⟨rfl, rfl⟩
  | event t event now =>
    simp only [read?] at h
    split at h
    · cases h
      exact ⟨rfl, rfl⟩
    · cases h
  | _ => cases h

theorem before_of_read? {r : Read} (h : c.read? b line a = some r) : r.before = c.state :=
  congrArg Read.before (eq_of_read? h).2

variable (b line)

/-- **What is known of the appliance comes from reads.** In a turn without one nothing becomes
known. -/
theorem known_act (c : Course σ) (a : Action) :
    (c.act b line a).1.state.known =
      (((c.read? b line a).map Read.after).getD c.state).known := by
  cases a with
  | poll t now clock =>
    simp only [read?, Option.map_some, Option.getD_some, Read.after, ← Line.fetchReport_fst, act,
      Bridge.poll, Bridge.takePoll, BridgeState.takeRefresh]
    split <;> rfl
  | refresh now =>
    simp only [read?, Option.map_some, Option.getD_some, Read.after, ← Line.fetchReport_fst, act,
      Line.fetchState, BridgeState.takeRefresh]
    split
    · rename_i hfetch
      rw [hfetch]
      rfl
    · rename_i hfetch
      rw [hfetch]
  | flag =>
    simp only [act]
    split <;> rfl
  | press button => rfl
  | event t event now =>
    by_cases hcalls : b.callsScene event c.state = true
    · have hstate := Bridge.state_handle_of_callsScene hcalls line t now
      simp only [read?, hcalls, if_true, Option.map_some, Option.getD_some, Read.after,
        ← Line.fetchReport_fst]
      exact congrArg BridgeState.known hstate
    · rw [Bool.not_eq_true] at hcalls
      obtain ⟨_, _, _, _, hstate⟩ := Bridge.state_handle_of_not_callsScene hcalls line t now
      simp only [read?, hcalls, if_false, Bool.false_eq_true, Option.map_none, Option.getD_none]
      exact (congrArg BridgeState.known hstate).trans rfl
  | work t now inUse =>
    have hwork := b.foreground_tryWork t c.state now inUse
    exact congrArg (fun s : BridgeState => (s.profile.sensors, s.appliance)) hwork
  | presence present => rfl

theorem run_concat (c : Course σ) (actions : List Action) (a : Action) :
    c.run b line (actions ++ [a]) = (c.run b line actions).step b line a :=
  List.foldl_append ..

theorem reads_append (c : Course σ) (actions more : List Action) :
    c.reads b line (actions ++ more) =
      c.reads b line actions ++ (c.run b line actions).reads b line more := by
  induction actions generalizing c with
  | nil => rfl
  | cons a rest ih =>
    simp only [List.cons_append, reads, ih, List.append_assoc]
    rfl

theorem reads_concat (c : Course σ) (actions : List Action) (a : Action) :
    c.reads b line (actions ++ [a]) =
      c.reads b line actions ++ ((c.run b line actions).read? b line a).toList := by
  rw [reads_append, reads, reads, List.append_nil]

/-- A read is that of one of the turns. -/
theorem mem_reads {c : Course σ} {actions : List Action} {r : Read}
    (h : r ∈ c.reads b line actions) :
    ∃ done a rest, actions = done ++ a :: rest ∧ (c.run b line done).read? b line a = some r := by
  induction actions generalizing c with
  | nil => cases h
  | cons a rest ih =>
    rcases List.mem_append.1 h with hr | hr
    · exact ⟨[], a, rest, rfl, Option.mem_toList.1 hr⟩
    · obtain ⟨done, a', rest', rfl, hread⟩ := ih hr
      exact ⟨a :: done, a', rest', rfl, hread⟩

/-- What is so of the reads and the state at the start, and stays so when a read is taken in and
when nothing becomes known, is so after all turns. -/
theorem run_reads {P : List Read → BridgeState → Prop} (c : Course σ) (hstart : P [] c.state)
    (hread : ∀ reads r, P reads r.before → P (reads ++ [r]) r.after)
    (hknown : ∀ reads s s', s'.known = s.known → P reads s → P reads s') (actions : List Action) :
    P (c.reads b line actions) (c.run b line actions).state := by
  induction actions using List.reverseRecOn with
  | nil => exact hstart
  | append_singleton rest a ih =>
    have hact := (c.run b line rest).known_act b line a
    rw [reads_concat, run_concat, state_step]
    cases hr : (c.run b line rest).read? b line a with
    | none =>
      rw [hr] at hact
      rw [Option.toList_none, List.append_nil]
      exact hknown _ _ _ hact ih
    | some r =>
      rw [hr] at hact
      rw [Option.toList_some]
      refine hknown _ _ _ hact (hread _ r ?_)
      rw [before_of_read? hr]
      exact ih

/-- Sensors stay what they are, but for their readings. -/
theorem map_bare_run (c : Course σ) (actions : List Action) :
    (c.run b line actions).state.profile.sensors.map Sensor.bare =
      c.state.profile.sensors.map Sensor.bare :=
  run_induction b line (P := fun later => later.state.profile.sensors.map Sensor.bare =
    c.state.profile.sensors.map Sensor.bare) rfl
    (fun later a h => (later.kept_act b line a).sensors.trans h) actions

end Course

/-! ### The sensor in a slot -/

/-- The sensor in a slot after some reads: it shows the value that was read last. -/
structure Sensor.ReadAs (start : Sensor) (slot : Nat) (reads : List Read) (s : Sensor) : Prop where
  bare : s.bare = start.bare
  value : s.reading.value = (lastValue? reads slot).getD start.reading.value
  lastQueried : s.reading.lastQueried =
    ((lastRead? reads slot).map Read.time).or start.reading.lastQueried

namespace Sensor.ReadAs

variable {start s t : Sensor} {slot : Nat} {reads : List Read}

theorem of_unreported (h : start.ReadAs slot reads s) (hsame : t.unreported = s.unreported) :
    start.ReadAs slot reads t where
  bare := (congrArg Sensor.bare hsame).trans h.bare
  value := (congrArg (·.reading.value) hsame).trans h.value
  lastQueried := (congrArg (·.reading.lastQueried) hsame).trans h.lastQueried

theorem concat (h : start.ReadAs slot reads s) (r : Read) :
    start.ReadAs slot (reads ++ [r])
      { s with reading := s.reading.recordAll (r.valuesFor slot) r.time } where
  bare := h.bare
  value := by
    rw [Reading.value_recordAll, h.value, lastValue?_concat]
    cases (r.valuesFor slot).getLast? <;> rfl
  lastQueried := by
    rw [Reading.lastQueried_recordAll, h.lastQueried, lastRead?_concat]
    split <;> rfl

end Sensor.ReadAs

/-- **A sensor shows what was read last.** Whatever turns are taken, the sensor in a slot stays the
one it is; its value is the last that was read for the slot, and the time of that read is noted. -/
theorem Course.reading_run {σ : Type} (b : Bridge) (line : Line σ) (c : Course σ)
    (actions : List Action) {slot : Nat} {start : Sensor}
    (hstart : c.state.profile.sensors[slot]? = some start) :
    ∃ s, (c.run b line actions).state.profile.sensors[slot]? = some s ∧
      start.ReadAs slot (c.reads b line actions) s := by
  apply run_reads b line (P := fun reads state =>
    ∃ s, state.profile.sensors[slot]? = some s ∧ start.ReadAs slot reads s)
  · exact ⟨start, hstart, rfl, rfl, rfl⟩
  · rintro reads r ⟨s, hs, hread⟩
    exact ⟨_, by rw [r.getElem?_after, hs, Option.map_some], hread.concat r⟩
  · rintro reads before after hknown ⟨s, hs, hread⟩
    have hsensors : after.profile.sensors[slot]?.map Sensor.unreported = some s.unreported := by
      have hslot := congrArg (fun known => known.1[slot]?) hknown
      simpa only [BridgeState.known, Profile.unreported, List.getElem?_map, hs,
        Option.map_some] using hslot
    obtain ⟨t, ht, hsame⟩ := Option.map_eq_some_iff.1 hsensors
    exact ⟨t, ht, hread.of_unreported hsame⟩

end HumidifierBridge
