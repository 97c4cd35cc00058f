import HumidifierBridge.Proofs.PushedReadings

/-!
# Ages of readings

Replies to requests for properties and pushes tell the bus how old each reading is. The time of a
reading is that of the last report that named its sensor, and only such a report moves it; a sensor
that none has named ages from when the profile was loaded.

`Course.ages` are the ages that are given in several turns, each with its time and with what had
been read before. An age is computed from the state at that time (`Course.mem_agesGiven`), and the
state is known from what was read (`Course.reading_run`). For ages to be true, and to grow from one
report to the next, the clock must not go back: `ClockFrom`.
-/

namespace HumidifierBridge

namespace Time

/-- Up to a later time, whole seconds are counted. -/
theorem secondsSince_of_le {now start : Time} (h : start ≤ now) :
    now.secondsSince start = (now - start) / 1000 := by
  have hpassed : 0 ≤ now - start := Int.sub_nonneg_of_le h
  rw [secondsSince, Int.tdiv_eq_ediv_of_nonneg hpassed]
  exact Int.max_eq_right (Int.ediv_nonneg hpassed (by decide))

theorem secondsSince_mono {now later : Time} (h : now ≤ later) {start : Time}
    (hstart : start ≤ now) : now.secondsSince start ≤ later.secondsSince start := by
  rw [secondsSince_of_le hstart, secondsSince_of_le (Int.le_trans hstart h)]
  exact Int.ediv_le_ediv (by decide) (Int.sub_le_sub_right h start)

end Time

/-! ### Ages in properties -/

/-- The ages in the states of sensors, each under the text of its slot. -/
def statedAges (states : Properties) : List (String × Int) :=
  states.filterMap fun state =>
    match (state.2.object?.bind (Property.get? · "age")) with
    | some (.int age) => some (state.1, age)
    | _ => none

/-- The ages that properties give. -/
def agesIn (properties : Properties) : List (String × Int) :=
  (properties.filter (·.1 = "sensorStates")).flatMap fun e => statedAges (e.2.object?.getD [])

namespace BridgeState

/-- The age of a reading, under the text of its slot. -/
def age (s : BridgeState) (now : Time) (a : Nat × Sensor) : String × Int :=
  (toString a.1, a.2.reading.ageSeconds now s.profile.loadedAt)

theorem statedAges_sensorStates (s : BridgeState) (now : Time) (only : Option Nat) :
    statedAges (Handler.sensorStates s now only) =
      (s.profile.activeSensors.filter fun a => only.all (· == a.1)).map (s.age now) := by
  rw [statedAges, Handler.sensorStates, List.filterMap_map, ← List.filterMap_eq_map]
  rfl

/-- A push gives the age of every active sensor. -/
theorem agesIn_pushProperties (s : BridgeState) (now : Time) :
    agesIn (s.pushProperties now) = s.profile.activeSensors.map (s.age now) := by
  have hstates := s.statedAges_sensorStates now none
  rw [List.filter_eq_self.2 (by simp)] at hstates
  rw [← hstates]
  exact List.append_nil _

end BridgeState

/-- The only property with ages is that of the sensors' states. -/
theorem ages_of_answerItem {target : Target} {s : BridgeState} {identity : Identity} {now : Time}
    {item : QueryItem} {value : Property}
    (h : answerItem target s identity now item = some ("sensorStates", value)) :
    ∃ only, value = .object (Handler.sensorStates s now only) := by
  simp only [answerItem, Option.bind_eq_bind, Option.bind_eq_some_iff, Option.pure_def,
    Option.some.injEq, Prod.mk.injEq] at h
  obtain ⟨name, -, handler, hfind, read, hread, rfl, rfl⟩ := h
  cases target with
  | container =>
    have hnone : Handler.find? .container "sensorStates" = none := rfl
    rw [hnone] at hfind
    cases hfind
  | device =>
    have hsome : Handler.find? .device "sensorStates" = some (Handler.readOnly fun c =>
        .object (Handler.sensorStates c.state c.now (Handler.requestedSlot c.query))) := rfl
    rw [hsome] at hfind
    cases hfind
    cases hread
    exact ⟨_, rfl⟩

/-- A reply gives the ages of active sensors only. -/
theorem Bridge.age_of_mem_getProperties {b : Bridge} {s : BridgeState} {dsuid : String}
    {query : List QueryItem} {now : Time} {entries : Properties}
    (h : b.getProperties s dsuid query now = some entries) {e : String × Int}
    (he : e ∈ agesIn entries) : ∃ a ∈ s.profile.activeSensors, e = s.age now a := by
  simp only [getProperties, Option.map_eq_some_iff] at h
  obtain ⟨target, -, rfl⟩ := h
  simp only [agesIn, List.mem_flatMap, List.mem_filter, List.mem_filterMap, decide_eq_true_eq] at he
  obtain ⟨⟨name, value⟩, ⟨⟨item, -, hitem⟩, hname⟩, he⟩ := he
  obtain rfl : name = "sensorStates" := hname
  obtain ⟨only, rfl⟩ := ages_of_answerItem hitem
  rw [Property.object?, Option.getD_some, s.statedAges_sensorStates] at he
  obtain ⟨a, ha, rfl⟩ := List.mem_map.1 he
  exact ⟨a, (List.mem_filter.1 ha).1, rfl⟩

/-! ### Ages that are given in turns -/

/-- An age that was given. -/
structure GivenAge where
  /-- The text of the sensor's slot. -/
  slot : String
  age : Int
  time : Time
  /-- What had been read before. -/
  reads : List Read

/-- The clock never goes back, and never shows a time before the one given. -/
def ClockFrom (start : Time) (actions : List Action) : Prop :=
  (start :: actions.filterMap Action.time?).Pairwise (· ≤ ·)

instance (start : Time) (actions : List Action) : Decidable (ClockFrom start actions) :=
  inferInstanceAs (Decidable (List.Pairwise _ _))

/-- The properties in a call. -/
def Call.properties? : Call → Option Properties
  | .pushProperty _ properties => some properties
  | _ => none

theorem Call.eq_push_of_properties? {call : Call} {properties : Properties}
    (h : call.properties? = some properties) :
    ∃ device, call = .pushProperty device properties := by
  cases call with
  | pushProperty device pushed =>
    obtain rfl : pushed = properties := Option.some.inj h
    exact ⟨device, rfl⟩
  | _ => cases h

/-- Properties are a reply to a request for them and to nothing else. -/
theorem Bridge.getProperties_of_reply {σ : Type} {b : Bridge} {line : Line σ} {t : Transport}
    {event : BusEvent} {now : Time} {w : World σ} {entries : Properties}
    (h : (b.handle line t event now w).reply = .properties entries) :
    ∃ dsuid query, b.getProperties w.state dsuid query now = some entries := by
  cases event with
  | getProperty dsuid query =>
    simp only [handle] at h
    split at h
    · rename_i found hfound
      obtain rfl : found = entries := Reply.properties.inj h
      exact ⟨dsuid, query, hfound⟩
    · cases h
  | newSession => cases h
  | endSession => cases h
  | identify dsuid => cases h
  | remove dsuid => cases h
  | _ =>
    simp only [handle] at h
    split at h <;> cases h

namespace Course

variable {σ : Type} (b : Bridge) (line : Line σ)

/-- The properties that the bus is told in a turn: in a reply, or in a push, be it taken or not. -/
def told (c : Course σ) (a : Action) : List Properties :=
  let replied := match a with
    | .event t event now =>
      match (b.handle line t event now c.world).reply with
      | .properties entries => [entries]
      | _ => []
    | _ => []
  replied ++ (c.act b line a).2.filterMap fun x => x.call.properties?

/-- The ages that are given in a turn, after some reads. -/
def agesGiven (c : Course σ) (before : List Read) (a : Action) : List GivenAge :=
  a.time?.toList.flatMap fun now =>
    ((c.told b line a).flatMap agesIn).map fun e => ⟨e.1, e.2, now, before⟩

/-- The ages that are given in several turns, after some reads. -/
def ages (c : Course σ) (before : List Read) : List Action → List GivenAge
  | [] => []
  | a :: rest =>
    c.agesGiven b line before a ++
      (c.step b line a).ages (before ++ (c.read? b line a).toList) rest

variable {b line} {c : Course σ} {a : Action}

theorem age_of_told {properties : Properties} (hproperties : properties ∈ c.told b line a)
    {now : Time} (hnow : a.time? = some now) {e : String × Int} (he : e ∈ agesIn properties) :
    ∃ x ∈ c.state.profile.activeSensors, e = c.state.age now x := by
  rcases List.mem_append.1 hproperties with hreply | hpush
  · cases a with
    | event t event time =>
      obtain rfl : time = now := Option.some.inj hnow
      simp only at hreply
      split at hreply
      · rename_i entries hentries
        obtain rfl := List.mem_singleton.1 hreply
        obtain ⟨dsuid, query, hget⟩ := Bridge.getProperties_of_reply hentries
        exact Bridge.age_of_mem_getProperties hget he
      · cases hreply
    | _ => cases hreply
  · obtain ⟨x, hx, hcall⟩ := List.mem_filterMap.1 hpush
    obtain ⟨device, hcall⟩ := Call.eq_push_of_properties? hcall
    obtain ⟨t, time, rfl, -, rfl, -⟩ := push_of_mem_act b line hx hcall
    obtain rfl : time = now := Option.some.inj hnow
    rw [c.state.agesIn_pushProperties] at he
    obtain ⟨x, hx, rfl⟩ := List.mem_map.1 he
    exact ⟨x, hx, rfl⟩

theorem mem_agesGiven {before : List Read} {g : GivenAge} (h : g ∈ c.agesGiven b line before a) :
    a.time? = some g.time ∧ g.reads = before ∧
      ∃ x ∈ c.state.profile.activeSensors, (g.slot, g.age) = c.state.age g.time x := by
  simp only [agesGiven, List.mem_flatMap, Option.mem_toList, List.mem_map] at h
  obtain ⟨now, hnow, e, ⟨properties, hproperties, he⟩, rfl⟩ := h
  exact ⟨hnow, rfl, age_of_told hproperties hnow he⟩

/-- An age is given in one of the turns, after what was read in those before it. -/
theorem mem_ages {before : List Read} {actions : List Action} {g : GivenAge}
    (h : g ∈ c.ages b line before actions) :
    ∃ done a rest, actions = done ++ a :: rest ∧
      g ∈ (c.run b line done).agesGiven b line (before ++ c.reads b line done) a := by
  induction actions generalizing c before with
  | nil => cases h
  | cons a rest ih =>
    rcases List.mem_append.1 h with hgiven | hlater
    · refine ⟨[], a, rest, rfl, ?_⟩
      rw [reads, List.append_nil]
      exact hgiven
    · obtain ⟨done, a', rest', rfl, hgiven⟩ := ih hlater
      refine ⟨a :: done, a', rest', rfl, ?_⟩
      rw [List.append_assoc] at hgiven
      exact hgiven

theorem prefix_of_mem_ages {before : List Read} {actions : List Action} {g : GivenAge}
    (h : g ∈ c.ages b line before actions) :
    before <+: g.reads ∧ g.time ∈ actions.filterMap Action.time? := by
  obtain ⟨done, a, rest, rfl, hgiven⟩ := mem_ages h
  obtain ⟨htime, hreads, -⟩ := mem_agesGiven hgiven
  refine ⟨hreads ▸ List.prefix_append .., List.mem_filterMap.2 ⟨a, ?_, htime⟩⟩
  exact List.mem_append_right _ List.mem_cons_self

/-- Ages are given in the order of time, and more has been read for a later one. -/
theorem pairwise_ages (b : Bridge) (line : Line σ) (c : Course σ) (before : List Read)
    {actions : List Action}
    (hclock : (actions.filterMap Action.time?).Pairwise (· ≤ ·)) :
    (c.ages b line before actions).Pairwise fun g h => g.time ≤ h.time ∧ g.reads <+: h.reads := by
  induction actions generalizing c before with
  | nil => exact List.Pairwise.nil
  | cons a rest ih =>
    have hrest : (rest.filterMap Action.time?).Pairwise (· ≤ ·) :=
      hclock.sublist ((List.sublist_cons_self a rest).filterMap Action.time?)
    refine List.pairwise_append.2 ⟨?_, ih _ _ hrest, ?_⟩
    · refine List.pairwise_of_forall_mem_list fun g hg h hh => ?_
      obtain ⟨hgtime, hgreads, -⟩ := mem_agesGiven hg
      obtain ⟨hhtime, hhreads, -⟩ := mem_agesGiven hh
      rw [hgtime] at hhtime
      have hsame : g.reads = h.reads := hgreads.trans hhreads.symm
      exact ⟨Int.le_of_eq (Option.some.inj hhtime), hsame ▸ List.prefix_rfl⟩
    · intro g hg h hh
      obtain ⟨hgtime, hgreads, -⟩ := mem_agesGiven hg
      obtain ⟨hhreads, hhtime⟩ := prefix_of_mem_ages hh
      rw [List.filterMap_cons, hgtime] at hclock
      refine ⟨(List.pairwise_cons.1 hclock).1 h.time hhtime, ?_⟩
      rw [hgreads]
      exact (List.prefix_append ..).trans hhreads

end Course

/-! ### Reports that name a sensor -/

/-- Was there a report with a value under the name, whatever the case of its letters? -/
def Read.names (r : Read) (name : String) : Bool :=
  r.report?.any fun report => report.values.any fun v => Ascii.sameFold v.1 name

/-- When a report last named a sensor; the start if none did. -/
def lastNamed (reads : List Read) (name : String) (start : Time) : Time :=
  ((reads.filter (·.names name)).getLast?.map Read.time).getD start

theorem lastNamed_le {reads : List Read} {start now : Time} (hstart : start ≤ now)
    (hreads : ∀ r ∈ reads, r.time ≤ now) (name : String) : lastNamed reads name start ≤ now := by
  rw [lastNamed]
  cases hlast : (reads.filter (·.names name)).getLast? with
  | none => exact hstart
  | some r => exact hreads r (List.mem_filter.1 (List.mem_of_getLast? hlast)).1

/-- What is read without naming the sensor makes no difference. -/
theorem lastNamed_of_prefix {reads later : List Read} {name : String} (h : reads <+: later)
    (hcount : later.countP (·.names name) = reads.countP (·.names name)) (start : Time) :
    lastNamed later name start = lastNamed reads name start := by
  obtain ⟨more, rfl⟩ := h
  have hnone : more.filter (·.names name) = [] := by
    rw [List.countP_append] at hcount
    rw [← List.length_eq_zero_iff, ← List.countP_eq_length_filter]
    omega
  rw [lastNamed, List.filter_append, hnone, List.append_nil, lastNamed]

/-- Where names are distinct, values for a slot come under the name of its sensor. -/
theorem Read.names_eq {r : Read} (hdistinct : r.before.profile.Distinct) {slot : Nat} {s : Sensor}
    (hs : (slot, s) ∈ r.before.profile.activeSensors) :
    r.names s.name = !(r.valuesFor slot).isEmpty := by
  have hslot : ∀ name, r.before.profile.slotOf? name = some slot ↔
      Ascii.sameFold name s.name = true := by
    intro name
    rw [hdistinct.slotOf?_eq_some_iff, Ascii.sameFold_comm]
    constructor
    · rintro ⟨t, ht, hname⟩
      rwa [Profile.eq_of_mem_activeSensors hs ht]
    · intro hname
      exact ⟨s, hs, hname⟩
  rw [names, valuesFor, Profile.valuesFor]
  cases r.report? with
  | none => rfl
  | some report =>
    simp only [Option.any_some, Option.map_some, Option.getD_some, hslot]
    induction report.values with
    | nil => rfl
    | cons v rest ih =>
      by_cases hname : Ascii.sameFold v.1 s.name = true
      · simp [hname]
      · simpa [hname] using ih

namespace Course

variable {σ : Type} (b : Bridge) (line : Line σ)

theorem loadedAt_run (c : Course σ) (actions : List Action) :
    (c.run b line actions).state.profile.loadedAt = c.state.profile.loadedAt := by
  apply run_induction b line (P := fun later =>
    later.state.profile.loadedAt = c.state.profile.loadedAt) rfl
  intro later a h
  have hkept := (later.kept_act b line a).profile
  exact (congrArg Profile.loadedAt hkept).trans h

/-- The reads with values for a slot are those that name its sensor. -/
theorem lastNamed_reads {c : Course σ} (hdistinct : c.state.profile.Distinct) {slot : Nat}
    {s : Sensor} (hs : (slot, s) ∈ c.state.profile.activeSensors) (actions : List Action)
    (start : Time) :
    lastNamed (c.reads b line actions) s.name start =
      ((lastRead? (c.reads b line actions) slot).map Read.time).getD start := by
  have hnames : ∀ r ∈ c.reads b line actions, r.names s.name = !(r.valuesFor slot).isEmpty := by
    intro r hr
    obtain ⟨done, a, rest, -, hread⟩ := mem_reads b line hr
    have hbare := c.map_bare_run b line done
    rw [← before_of_read? hread] at hbare
    obtain ⟨t, ht, hsame⟩ := Profile.exists_activeSensor_of_bare hbare hs
    have hname : t.bare.name = s.bare.name := congrArg Sensor.name hsame
    rw [show s.name = t.name from hname.symm]
    exact Read.names_eq (hdistinct.of_bare hbare) ht
  rw [lastNamed, lastRead?, List.filter_congr hnames]

/-- An active sensor ages from the last report that named it. -/
theorem ageSeconds_run {c : Course σ} (hunread : c.state.profile.IsUnread)
    (hdistinct : c.state.profile.Distinct) {slot : Nat} {s t : Sensor}
    (hs : (slot, s) ∈ c.state.profile.activeSensors) {actions : List Action}
    (ht : (slot, t) ∈ (c.run b line actions).state.profile.activeSensors) (now start : Time) :
    t.reading.ageSeconds now start =
      now.secondsSince (lastNamed (c.reads b line actions) s.name start) := by
  have hslot := (Profile.mem_activeSensors.1 hs).1
  obtain ⟨u, hu, hread⟩ := c.reading_run b line actions hslot
  obtain rfl : t = u := Option.some.inj ((Profile.mem_activeSensors.1 ht).1.symm.trans hu)
  have hnever := hunread s (List.mem_of_getElem? hslot)
  rw [Reading.ageSeconds, hread.lastQueried, hnever, Option.or_none,
    lastNamed_reads b line hdistinct hs]

/-- What has been read by a turn was read by its time. -/
theorem time_le_of_mem_reads {c : Course σ} {start : Time} {done : List Action} {a : Action}
    {rest : List Action} (hclock : ClockFrom start (done ++ a :: rest)) {now : Time}
    (hnow : a.time? = some now) : start ≤ now ∧ ∀ r ∈ c.reads b line done, r.time ≤ now := by
  obtain ⟨hstart, htimes⟩ := List.pairwise_cons.1 hclock
  rw [List.filterMap_append] at hstart htimes
  have hmem : now ∈ (a :: rest).filterMap Action.time? :=
    List.mem_filterMap.2 ⟨a, List.mem_cons_self, hnow⟩
  refine ⟨hstart now (List.mem_append_right _ hmem), fun r hr => ?_⟩
  obtain ⟨earlier, a', later, rfl, hread⟩ := mem_reads b line hr
  refine (List.pairwise_append.1 htimes).2.2 r.time ?_ now hmem
  refine List.mem_filterMap.2 ⟨a', ?_, (eq_of_read? hread).1⟩
  exact List.mem_append_right _ List.mem_cons_self

/-- **Ages count from the last report that named the sensor.** Whatever turns are taken from the
start of a bridge whose sensors are not read yet and have different names, while the clock does not
go back: an age that is given for an active sensor is the number of whole seconds since the last
report that named it, or since the profile was loaded if none did; and of two ages between which no
report named it, the later one is not less. -/
theorem ages_run {profile : Profile} {settings : Settings} {files : FileTree} {appliance : σ}
    {actions : List Action} (hunread : profile.IsUnread) (hdistinct : profile.Distinct)
    (hclock : ClockFrom profile.loadedAt actions) :
    let begin : Course σ := start profile settings files appliance
    ∀ (slot : Nat) (s : Sensor), profile.sensors[slot]? = some s → s.active = true →
      let given := (begin.ages b line [] actions).filter (·.slot = toString slot)
      (∀ g ∈ given, g.age = (g.time - lastNamed g.reads s.name profile.loadedAt) / 1000 ∧
        0 ≤ g.age) ∧
      given.Pairwise fun g h =>
        h.reads.countP (·.names s.name) = g.reads.countP (·.names s.name) → g.age ≤ h.age := by
  intro begin slot s hslot hactive given
  have hs : (slot, s) ∈ begin.state.profile.activeSensors :=
    Profile.mem_activeSensors.2 ⟨hslot, hactive⟩
  have hage : ∀ g ∈ given, lastNamed g.reads s.name profile.loadedAt ≤ g.time ∧
      g.age = g.time.secondsSince (lastNamed g.reads s.name profile.loadedAt) := by
    intro g hg
    obtain ⟨hg, hgslot⟩ := List.mem_filter.1 hg
    obtain ⟨done, a, rest, rfl, hgiven⟩ := mem_ages hg
    obtain ⟨htime, hreads, ⟨i, t⟩, ht, hstated⟩ := mem_agesGiven hgiven
    obtain ⟨hi, hgage⟩ := Prod.mk.inj hstated
    obtain rfl : i = slot := by
      rw [decide_eq_true_iff, hi] at hgslot
      exact Decimal.repr_inj.1 hgslot
    obtain ⟨hstart, hbefore⟩ := time_le_of_mem_reads b line (c := begin) hclock htime
    rw [hreads, List.nil_append]
    refine ⟨lastNamed_le hstart hbefore s.name, ?_⟩
    rw [hgage, loadedAt_run]
    exact ageSeconds_run b line hunread hdistinct hs ht g.time profile.loadedAt
  constructor
  · intro g hg
    obtain ⟨hle, hgage⟩ := hage g hg
    rw [hgage]
    exact ⟨Time.secondsSince_of_le hle, Time.secondsSince_nonneg ..⟩
  · have hordered := (begin.pairwise_ages b line [] hclock.of_cons).filter
      (·.slot = toString slot)
    refine hordered.imp_of_mem ?_
    rintro g h hg hh ⟨htime, hprefix⟩ hcount
    obtain ⟨hgle, hgage⟩ := hage g hg
    obtain ⟨-, hhage⟩ := hage h hh
    rw [hgage, hhage, lastNamed_of_prefix hprefix hcount]
    exact Time.secondsSince_mono htime hgle

/-- A sensor is read, pushed after a second, not heard of for a while and then read again. -/
theorem ages_between_two_reports :
    let b : Bridge := .sample
    let profile : Profile := .sample
    let line := recital
    let request (now : Time) : Action :=
      .event (.loopback true) (.getProperty b.identity.device.text [.named "sensorStates"]) now
    let work (now : Time) : Action := .work (.loopback true) now false
    let poll (now : Time) : Action := .poll (.loopback true) now now
    let actions := [request 1500, work 1600, work 1700, poll 2000, request 2999, work 3000,
      poll 4000, request 5999, poll 8000, request 8999]
    let begin := start profile {} .empty [humidityAnswer, .none, humidityAnswer]
    let given := (begin.ages b line [] actions).filter (·.slot = toString 0)
    profile.IsUnread ∧ profile.Distinct ∧ ClockFrom profile.loadedAt actions ∧
      given.map (·.age) = [1, 0, 1, 3, 0] ∧
      (∀ g ∈ given, g.age = (g.time - lastNamed g.reads "hum" profile.loadedAt) / 1000 ∧
        0 ≤ g.age) ∧
      given.Pairwise fun g h =>
        h.reads.countP (·.names "hum") = g.reads.countP (·.names "hum") → g.age ≤ h.age := by
  intro b profile line request work poll actions begin given
  have hunread : profile.IsUnread := by simp [profile, Profile.IsUnread, Profile.sample]
  have hdistinct : profile.Distinct := List.pairwise_singleton ..
  have hclock : ClockFrom profile.loadedAt actions := by decide
  have hgiven : given.map (·.age) = [1, 0, 1, 3, 0] := by decide +kernel
  have hages := @ages_run _ b line profile {} .empty [humidityAnswer, .none, humidityAnswer] actions
    hunread hdistinct hclock 0 _ rfl rfl
  exact ⟨hunread, hdistinct, hclock, hgiven, hages.1, hages.2⟩

end Course

end HumidifierBridge
