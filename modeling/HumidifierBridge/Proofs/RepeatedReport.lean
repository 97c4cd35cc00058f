import HumidifierBridge.Proofs.JsonNumbers
import HumidifierBridge.Proofs.Reads

/-!
# A report that comes again

An appliance at rest reports the same again, and that should be no news. There is one exception. A
report may hold several values for one sensor: names are matched whatever the case of their letters,
and the members of `device` stand beside those of the document. Where such values differ, each is
news after the other, whenever the report comes.

`Profile.Settled` says of values that none would be news. A report without the exception settles its
own values (`settled_foldl_offer`), and taking it in again leaves them settled and reports no change
(`foldl_offer_of_settled`). With the exception a change is reported by any profile
(`sameValue_of_foldl_offer`).
-/

namespace HumidifierBridge

namespace Profile

/-! ### Settled values -/

/-- None of the values would be news. -/
def Settled (p : Profile) (values : List (String × Binary64)) : Prop :=
  ∀ v ∈ values, ∀ s, p.findSensor? v.1 = some s → s.reading.differs v.2 = false

/-- The values for any one sensor are the same number. -/
def Consistent (p : Profile) (values : List (String × Binary64)) : Prop :=
  ∀ v ∈ values, ∀ w ∈ values, Ascii.sameFold v.1 w.1 = true → (p.findSensor? w.1).isSome = true →
    v.2.sameValue w.2 = true

variable {p : Profile} {values done rest : List (String × Binary64)}

theorem Settled.mono (h : p.Settled values) (hdone : done ⊆ values) : p.Settled done :=
  fun v hv => h v (hdone hv)

theorem Consistent.recordReading (h : p.Consistent values) (name : String) (value : Binary64)
    (now : Time) : (p.recordReading name value now).1.Consistent values := by
  intro v hv w hw hsame hfound
  rw [p.findSensor?_recordReading, Option.isSome_map] at hfound
  exact h v hv w hw hsame hfound

/-- A value that is read is settled with those that were. -/
theorem Settled.recordReading (h : p.Settled done) (hconsistent : p.Consistent values)
    (hdone : done ⊆ values) {v : String × Binary64} (hv : v ∈ values) (now : Time) :
    (p.recordReading v.1 v.2 now).1.Settled (v :: done) := by
  intro w hw t ht
  rw [p.findSensor?_recordReading] at ht
  obtain ⟨s, hs, rfl⟩ := Option.map_eq_some_iff.1 ht
  -- A value for the same sensor meets the one just read, any other what it met before.
  by_cases hsame : Ascii.sameFold v.1 w.1 = true
  · have hwvalues : w ∈ values := by
      rcases List.mem_cons.1 hw with rfl | hw
      · exact hv
      · exact hdone hw
    have hvalue := hconsistent v hv w hwvalues hsame (by rw [hs]; rfl)
    rw [if_pos hsame, Reading.differs_record, hvalue]
    rfl
  · rcases List.mem_cons.1 hw with rfl | hw
    · exact absurd (Ascii.sameFold_refl w.1) hsame
    · rw [if_neg hsame]
      exact h w hw s hs

end Profile

namespace BridgeState

variable {now : Time} {values done rest : List (String × Binary64)} {s : Profile × Bool}

/-- Values that are consistent are settled once they were offered. -/
theorem settled_foldl_offer (hconsistent : s.1.Consistent values) (hdone : done ⊆ values)
    (hrest : rest ⊆ values) (h : s.1.Settled done) :
    (rest.foldl (offer now) s).1.Settled (rest ++ done) := by
  induction rest generalizing done s with
  | nil => exact h
  | cons v rest ih =>
    obtain ⟨hv, hrest⟩ := List.cons_subset.1 hrest
    have hsettled := ih (s := offer now s v) (hconsistent.recordReading v.1 v.2 now)
      (List.cons_subset.2 ⟨hv, hdone⟩) hrest (h.recordReading hconsistent hdone hv now)
    refine hsettled.mono ?_
    intro w hw
    rw [List.mem_append, List.mem_cons] at hw ⊢
    rcases hw with (rfl | hw) | hw
    · exact .inr (.inl rfl)
    · exact .inl hw
    · exact .inr (.inr hw)

/-- Offered again, settled values are no change. -/
theorem foldl_offer_of_settled (hconsistent : s.1.Consistent values) (hrest : rest ⊆ values)
    (h : s.1.Settled values) (hflag : s.2 = false) : (rest.foldl (offer now) s).2 = false := by
  induction rest generalizing s with
  | nil => exact hflag
  | cons v rest ih =>
    obtain ⟨hv, hrest⟩ := List.cons_subset.1 hrest
    have hsettled := h.recordReading hconsistent (List.Subset.refl values) hv now
    refine ih (hconsistent.recordReading v.1 v.2 now) hrest
      (hsettled.mono (List.subset_cons_self v values)) ?_
    simp only [offer, hflag, Bool.false_or, Profile.recordReading]
    cases hfind : s.1.findSensor? v.1 with
    | none => rfl
    | some t => exact h v hv t hfind

/-- Where no change is reported, each value is the number that its sensor showed before. -/
theorem sameValue_of_foldl_offer (h : (values.foldl (offer now) s).2 = false)
    {v : String × Binary64} (hv : v ∈ values) {t : Sensor} (ht : s.1.findSensor? v.1 = some t) :
    t.reading.value.sameValue v.2 = true := by
  induction values generalizing s t with
  | nil => cases hv
  | cons w rest ih =>
    have hflag : (offer now s w).2 = false :=
      (foldl_offer_of_false (s := offer now s w) h).1
    have hrest := ih (s := offer now s w) h
    simp only [offer, Bool.or_eq_false_iff, Profile.recordReading] at hflag
    -- For the same sensor, what follows is compared with `w`, and `w` with what was shown before.
    by_cases hsame : Ascii.sameFold w.1 v.1 = true
    · have hw : t.reading.value.sameValue w.2 = true := by
        have hnews := hflag.2
        rw [s.1.findSensor?_congr hsame, ht] at hnews
        simp only [Option.map_some, Option.getD_some, Reading.differs, Bool.or_eq_false_iff,
          Bool.not_eq_false'] at hnews
        exact hnews.2
      rcases List.mem_cons.1 hv with rfl | hv
      · exact hw
      · have hvalue := hrest hv (t := { t with reading := t.reading.record w.2 now })
          (by simp [offer, Profile.findSensor?_recordReading, ht, hsame])
        exact Binary64.sameValue_trans hw hvalue
    · rcases List.mem_cons.1 hv with rfl | hv
      · exact absurd (Ascii.sameFold_refl v.1) hsame
      · exact hrest hv (by simp [offer, Profile.findSensor?_recordReading, ht, hsame])

end BridgeState

/-! ### Reports with several values for one sensor -/

/-- Two values of the report are for one sensor, and are different numbers. -/
def DataReport.Contradicts (r : DataReport) (p : Profile) : Prop :=
  ∃ v ∈ r.values, ∃ w ∈ r.values, Ascii.sameFold v.1 w.1 = true ∧
    (p.findSensor? w.1).isSome = true ∧ ¬ v.2.Agrees w.2

instance (r : DataReport) (p : Profile) : Decidable (r.Contradicts p) :=
  inferInstanceAs (Decidable (∃ v ∈ r.values, ∃ w ∈ r.values, _))

namespace Profile

variable {p q : Profile}

theorem contradicts_congr (h : p.sensors.map Sensor.bare = q.sensors.map Sensor.bare)
    (r : DataReport) : r.Contradicts p ↔ r.Contradicts q := by
  simp only [DataReport.Contradicts, isSome_findSensor?_congr h]

theorem consistent_of_not_contradicts {r : DataReport}
    (hnumbers : ∀ v ∈ r.values, v.2.isNaN = false) (h : ¬ r.Contradicts p) :
    p.Consistent r.values := by
  intro v hv w hw hsame hfound
  by_cases hagrees : v.2.Agrees w.2
  · exact hagrees.sameValue (hnumbers v hv)
  · exact absurd ⟨v, hv, w, hw, hsame, hfound, hagrees⟩ h

/-- When the values were pushed does not matter to what would be news. -/
theorem Settled.of_unreported {values : List (String × Binary64)} (h : p.Settled values)
    (hsame : q.unreported.sensors = p.unreported.sensors) : q.Settled values := by
  intro v hv t ht
  have hfind : (q.findSensor? v.1).map Sensor.unreported =
      (p.findSensor? v.1).map Sensor.unreported := by
    rw [← q.findSensor?_unreported, ← p.findSensor?_unreported, findSensor?, findSensor?, hsame]
  rw [ht, Option.map_some, eq_comm, Option.map_eq_some_iff] at hfind
  obtain ⟨s, hs, heq⟩ := hfind
  have hreading := h v hv s hs
  have hdiffers : ∀ s : Sensor, s.unreported.reading.differs v.2 = s.reading.differs v.2 :=
    fun _ => rfl
  rw [← hdiffers, ← heq, hdiffers, hreading]

theorem map_bare_of_unreported (hsame : q.unreported.sensors = p.unreported.sensors) :
    q.sensors.map Sensor.bare = p.sensors.map Sensor.bare := by
  have hbare : ∀ p : Profile, p.unreported.sensors.map Sensor.bare =
      p.sensors.map Sensor.bare := by
    intro p
    rw [unreported, List.map_map]
    rfl
  rw [← hbare, hsame, hbare]

end Profile

namespace BridgeState

/-- A report that contradicts itself is always a change. -/
theorem changed_of_contradicts {s : BridgeState} {report : DataReport}
    (h : report.Contradicts s.profile) (now : Time) : (s.applyReport report now).2 = true := by
  obtain ⟨v, hv, w, hw, hsame, hfound, hdisagree⟩ := h
  obtain ⟨t, ht⟩ := Option.isSome_iff_exists.1 hfound
  cases hflag : (s.applyReport report now).2 with
  | true => rfl
  | false =>
    have hvshown := sameValue_of_foldl_offer (s := (s.profile, false)) hflag hv
      ((s.profile.findSensor?_congr hsame).trans ht)
    have hwshown := sameValue_of_foldl_offer (s := (s.profile, false)) hflag hw ht
    rw [Binary64.sameValue_comm] at hvshown
    have hagrees := Binary64.sameValue_trans hvshown hwshown
    exact absurd (.inr hagrees) hdisagree

/-- A report that does not is no change once it was taken in, as long as no other was. -/
theorem unchanged_of_not_contradicts {s later : BridgeState} {report : DataReport} {now : Time}
    (hnumbers : ∀ v ∈ report.values, v.2.isNaN = false) (h : ¬ report.Contradicts s.profile)
    (hsame : later.profile.unreported.sensors =
      (s.applyReport report now).1.profile.unreported.sensors)
    (again : Time) : (later.applyReport report again).2 = false := by
  have hsettled : (s.applyReport report now).1.profile.Settled report.values := by
    have hfirst : (s.applyReport report now).1.profile.Settled (report.values ++ []) :=
      settled_foldl_offer (s := (s.profile, false))
        (Profile.consistent_of_not_contradicts hnumbers h) (List.nil_subset _)
        (List.Subset.refl report.values) (fun v hv => absurd hv List.not_mem_nil)
    rw [List.append_nil] at hfirst
    exact hfirst
  have hbare := (Profile.map_bare_of_unreported hsame).trans (s.map_bare_applyReport report now)
  have hlater : ¬ report.Contradicts later.profile := by
    rw [Profile.contradicts_congr hbare]
    exact h
  exact foldl_offer_of_settled (s := (later.profile, false))
    (Profile.consistent_of_not_contradicts hnumbers hlater) (List.Subset.refl report.values)
    (hsettled.of_unreported hsame) rfl

end BridgeState

/-! ### Turns between two reports -/

namespace Bridge

variable {σ : Type} (b : Bridge) (line : Line σ)

/-- Is a report taken in while the event is handled? -/
def takesReport (event : BusEvent) (w : World σ) : Bool :=
  b.callsScene event w.state && (line.fetchReport w.appliance).1.isOk

end Bridge

namespace Course

variable {σ : Type} (b : Bridge) (line : Line σ)

/-- Does the turn take a report in? -/
def takesReport (c : Course σ) : Action → Bool
  | .poll _ _ _ => (line.fetchReport c.world.appliance).1.isOk
  | .refresh _ => (line.fetchReport c.world.appliance).1.isOk
  | .event _ event _ => b.takesReport line event c.world
  | _ => false

/-- No turn takes a report in. -/
def Reportless (c : Course σ) : List Action → Prop
  | [] => True
  | a :: rest => c.takesReport b line a = false ∧ (c.step b line a).Reportless rest

/-- That is a turn whose read holds a report. -/
theorem takesReport_eq (c : Course σ) (a : Action) :
    c.takesReport b line a = (c.read? b line a).any (·.answer.report.isOk) := by
  cases a with
  | event t event now =>
    cases hcalls : b.callsScene event c.state with
    | true =>
      simp only [takesReport, Bridge.takesReport, hcalls, read?, if_true, Option.any_some,
        Bool.true_and, Line.fetchReport_fst]
    | false =>
      simp only [takesReport, Bridge.takesReport, hcalls, read?, if_false, Option.any_none,
        Bool.false_and, Bool.false_eq_true]
  | _ => rfl

/-- A turn that takes no report in leaves the readings as they are, but for the times of pushes. -/
theorem unreported_act {c : Course σ} {a : Action} (h : c.takesReport b line a = false) :
    (c.act b line a).1.state.profile.unreported.sensors = c.state.profile.unreported.sensors := by
  have hknown := congrArg Prod.fst (c.known_act b line a)
  cases hr : c.read? b line a with
  | none =>
    rw [hr] at hknown
    exact hknown
  | some r =>
    rw [takesReport_eq, hr, Option.any_some] at h
    rw [hr, Option.map_some, Option.getD_some, Read.after] at hknown
    cases hreport : r.answer.report with
    | ok report =>
      rw [hreport] at h
      cases h
    | error e =>
      rw [hreport, before_of_read? hr] at hknown
      exact hknown

theorem unreported_run {c : Course σ} {actions : List Action} (h : c.Reportless b line actions) :
    (c.run b line actions).state.profile.unreported.sensors =
      c.state.profile.unreported.sensors := by
  induction actions generalizing c with
  | nil => rfl
  | cons a rest ih =>
    obtain ⟨hstep, hrest⟩ := h
    exact (ih hrest).trans (unreported_act b line hstep)

/-- **An unchanged appliance is reported as changed if and only if its report contradicts itself.**
Any document is taken in; then any turns are taken that take no report in; then the same document
is taken in again. -/
theorem changed_again_iff {body : List Char} {report : DataReport}
    (hbody : DataReport.parse body = .ok report) (c : Course σ) (now : Time)
    {actions : List Action}
    (hquiet : (c.withState (c.state.applyReport report now).1).Reportless b line actions)
    (again : Time) (t : Transport) :
    let later := ((c.withState (c.state.applyReport report now).1).run b line actions).state
    ((later.applyReport report again).2 = true ↔ report.Contradicts c.state.profile) ∧
      ((b.takePoll t later (.ok report) again).outcome = .unchanged ↔
        ¬ report.Contradicts c.state.profile) := by
  intro later
  have hsame : later.profile.unreported.sensors =
      (c.state.applyReport report now).1.profile.unreported.sensors :=
    unreported_run b line hquiet
  have hbare := (Profile.map_bare_of_unreported hsame).trans
    (c.state.map_bare_applyReport report now)
  have hchanged : (later.applyReport report again).2 = true ↔
      report.Contradicts c.state.profile := by
    constructor
    · intro hflag
      by_cases hcontradicts : report.Contradicts c.state.profile
      · exact hcontradicts
      · have hunchanged := BridgeState.unchanged_of_not_contradicts
          (DataReport.isNaN_of_parse hbody) hcontradicts hsame again
        rw [hunchanged] at hflag
        cases hflag
    · intro hcontradicts
      exact BridgeState.changed_of_contradicts
        ((Profile.contradicts_congr hbare report).2 hcontradicts) again
  refine ⟨hchanged, ?_⟩
  rw [← hchanged]
  simp only [Bridge.takePoll]
  split
  · rename_i hflag
    simp [hflag]
  · rename_i hflag
    simp [hflag]

/-- The humidity stands in `device` and, with another value, beside it. Between the two reports the
device is announced and a poll fails. -/
theorem changed_again_by_device_and_document :
    let body := "\x7b\"device\":\x7b\"hum\":40\x7d,\"hum\":41\x7d".toList
    let report : DataReport := ⟨{ humidity := some 40 }, [("hum", .ofInt 40), ("hum", .ofInt 41)]⟩
    let b : Bridge := .sample
    let line : Line Unit := ⟨"v", fun _ _ => (.none, ())⟩
    let c : Course Unit := start .sample {} .empty ()
    let between : List Action := [.work (.loopback true) 1 false, .poll (.loopback true) 2 2]
    let taken := c.withState (c.state.applyReport report 0).1
    let later := (taken.run b line between).state
    DataReport.parse body = .ok report ∧ taken.Reportless b line between ∧
      report.Contradicts c.state.profile ∧ (later.applyReport report 3).2 = true ∧
        (b.takePoll (.loopback true) later (.ok report) 3).outcome ≠ .unchanged := by
  intro body report b line c between taken later
  have hbody : DataReport.parse body = .ok report := by rfl
  have hquiet : taken.Reportless b line between := ⟨by decide +kernel, by decide +kernel, trivial⟩
  have hcontradicts : report.Contradicts c.state.profile := by decide +kernel
  have hagain := changed_again_iff b line hbody c 0 hquiet 3 (.loopback true)
  refine ⟨hbody, hquiet, hcontradicts, hagain.1.2 hcontradicts, ?_⟩
  intro hunchanged
  exact hagain.2.1 hunchanged hcontradicts

end Course

end HumidifierBridge
