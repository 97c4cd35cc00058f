import HumidifierBridge.Proofs.StateParts

/-!
# What the bus is told of the device

The bus hears of the device in an order: the device is announced, then it is said to be there or
gone by turns, and readings are pushed in between. What it heard is void when a session starts or
ends, and when a pass of work finds no session; `Moment.cuts` says where the past is cut for that.

A `Signal` is a call about the device with what was so when it was made, and `Signal.Orderly` is the
law for the signals of one piece. `Presence.InStep` ties the flags of the bridge to the signals
since the last cut. Only passes of work make signals, and each makes at most one;
`Bridge.inStep_work` goes through what it can be. Everyone else leaves the flags alone or cuts the
past.
-/

namespace HumidifierBridge

namespace Call

/-- Does the call announce the device? -/
def announces : Call → Bool
  | .announceDevice _ _ => true
  | _ => false

/-- What the call says of the appliance: that it is there, that it is gone, or nothing. -/
def presence? : Call → Option Bool
  | .identifyDevice _ => some true
  | .deviceVanished _ => some false
  | _ => none

/-- Does the call push properties? -/
def pushes : Call → Bool
  | .pushProperty _ _ => true
  | _ => false

/-- Is the call about a device that the bus knows already? -/
def presumesDevice (c : Call) : Bool := c.presence?.isSome || c.pushes

/-- Is the call about the device? -/
def concernsDevice (c : Call) : Bool := c.announces || c.presumesDevice

end Call

/-- A call about the device, and whether the appliance counted as there when it was made. -/
structure Signal where
  sent : Sent
  present : Bool

namespace Signal

/-- Was the device announced? -/
def announces (s : Signal) : Bool := s.sent.taken && s.sent.call.announces

/-- What the bus was told of the appliance. -/
def told? (s : Signal) : Option Bool := if s.sent.taken then s.sent.call.presence? else none

/-- What the bus was told of the appliance, one after the other. -/
def told (signals : List Signal) : List Bool := signals.filterMap told?

/-- The order in which the bus hears of the device. -/
structure Orderly (signals : List Signal) : Prop where
  announced_once : signals.countP announces ≤ 1
  /-- Nothing else is tried before the device was announced. -/
  announced_first : ∀ i s, signals[i]? = some s → s.sent.call.presumesDevice = true →
    (signals.take i).any announces = true
  /-- The bus is told by turns that the appliance is there and that it is gone. -/
  alternates : ∀ i there, (told signals)[i]? = some there → there = decide (i % 2 = 0)
  /-- No call says of the appliance what is not so. -/
  truthful : ∀ s ∈ signals, ∀ there, s.sent.call.presence? = some there → s.present = there
  /-- A push while the appliance is there follows the news that it is. -/
  pushed_present : ∀ i s, signals[i]? = some s → s.sent.call.pushes = true → s.present = true →
    (told (signals.take i)).getLast? = some true

@[simp] theorem told_nil : told [] = [] := rfl

@[simp] theorem told_append (signals later : List Signal) :
    told (signals ++ later) = told signals ++ told later := List.filterMap_append ..

@[simp] theorem told_singleton (s : Signal) : told [s] = s.told?.toList := by
  cases h : s.told? <;> simp [told, h]

/-- A signal after others is one of them, or it is the last. -/
theorem getElem?_concat_cases {signals : List Signal} {s x : Signal} {i : Nat}
    (h : (signals ++ [s])[i]? = some x) :
    (signals[i]? = some x ∧ (signals ++ [s]).take i = signals.take i) ∨
      (x = s ∧ (signals ++ [s]).take i = signals) := by
  by_cases hi : i < signals.length
  · left
    rw [List.getElem?_append_left hi] at h
    exact ⟨h, List.take_append_of_le_length (Nat.le_of_lt hi)⟩
  · right
    have hlength : i < (signals ++ [s]).length := (List.getElem?_eq_some_iff.1 h).1
    have hlast : i = signals.length := by simp at hlength; omega
    subst hlast
    exact ⟨by simpa using h.symm, by simp⟩

namespace Orderly

theorem nil : Orderly [] where
  announced_once := Nat.zero_le _
  announced_first := by simp
  alternates := by simp
  truthful := by simp
  pushed_present := by simp

/-- One more signal in order. -/
theorem concat {signals : List Signal} {s : Signal} (h : Orderly signals)
    (honce : s.announces = true → signals.any announces = false)
    (hfirst : s.sent.call.presumesDevice = true → signals.any announces = true)
    (halternates : ∀ there ∈ s.told?, there = decide ((told signals).length % 2 = 0))
    (htruthful : ∀ there, s.sent.call.presence? = some there → s.present = there)
    (hpushed : s.sent.call.pushes = true → s.present = true →
      (told signals).getLast? = some true) :
    Orderly (signals ++ [s]) where
  announced_once := by
    rw [List.countP_append, List.countP_singleton]
    split
    · rename_i hs
      have hnone : signals.countP announces = 0 := by
        rw [List.countP_eq_zero]
        simpa using honce hs
      omega
    · exact h.announced_once
  announced_first := by
    intro i x hx hpresumes
    rcases getElem?_concat_cases hx with ⟨hx, htake⟩ | ⟨rfl, htake⟩
    · rw [htake]
      exact h.announced_first i x hx hpresumes
    · rw [htake]
      exact hfirst hpresumes
  alternates := by
    intro i there hthere
    rw [told_append, told_singleton] at hthere
    by_cases hi : i < (told signals).length
    · rw [List.getElem?_append_left hi] at hthere
      exact h.alternates i there hthere
    · rw [List.getElem?_append_right (Nat.not_lt.1 hi)] at hthere
      cases htold : s.told? with
      | none => simp [htold] at hthere
      | some said =>
        -- The list has one more element, so that the index is its length.
        have hlast : i - (told signals).length = 0 := by
          have hbound := (List.getElem?_eq_some_iff.1 hthere).1
          simp only [htold, Option.toList_some, List.length_singleton] at hbound
          omega
        have hlength : i = (told signals).length := by omega
        subst hlength
        have hsaid : said = there := by simpa [htold] using hthere
        exact halternates there (by rw [htold, hsaid]; rfl)
  truthful := by
    intro x hx there hthere
    rcases List.mem_append.1 hx with hx | hx
    · exact h.truthful x hx there hthere
    · obtain rfl : x = s := by simpa using hx
      exact htruthful there hthere
  pushed_present := by
    intro i x hx hpushes hpresent
    rcases getElem?_concat_cases hx with ⟨hx, htake⟩ | ⟨rfl, htake⟩
    · rw [htake]
      exact h.pushed_present i x hx hpushes hpresent
    · rw [htake]
      exact hpushed hpushes hpresent

/-- Before the announcement the bus was told nothing. -/
theorem told_eq_nil {signals : List Signal} (h : Orderly signals)
    (hnone : signals.any announces = false) : told signals = [] := by
  rw [told, List.filterMap_eq_nil_iff]
  intro s hs
  obtain ⟨i, hi⟩ := List.mem_iff_getElem?.1 hs
  cases htold : s.told? with
  | none => rfl
  | some there =>
    have hpresumes : s.sent.call.presumesDevice = true := by
      simp only [told?] at htold
      split at htold
      · simp [Call.presumesDevice, htold]
      · cases htold
    obtain ⟨a, ha, hannounces⟩ := List.any_eq_true.1 (h.announced_first i s hi hpresumes)
    have hnot := List.any_eq_false.1 hnone a (List.mem_of_mem_take ha)
    exact absurd hannounces hnot

/-- After an odd number of news the last one is that the appliance is there. -/
theorem getLast?_told {signals : List Signal} (h : Orderly signals)
    (hodd : (told signals).length % 2 = 1) : (told signals).getLast? = some true := by
  rw [List.getLast?_eq_getElem?]
  have hlast : (told signals).length - 1 < (told signals).length := by omega
  have hget := List.getElem?_eq_getElem hlast
  have heven := h.alternates _ _ hget
  have hparity : ((told signals).length - 1) % 2 = 0 := by omega
  rw [hget, heven, decide_eq_true hparity]

end Orderly

end Signal

namespace Presence

open Signal (told)

/-- The flags say what the signals since the last cut have told. -/
structure InStep (p : Presence) (signals : List Signal) : Prop where
  orderly : Signal.Orderly signals
  announced : p.announced = signals.any Signal.announces
  signaled : p.announced = true → p.presentSignaled = decide ((told signals).length % 2 = 1)

namespace InStep

/-- After a cut nothing has been told. -/
theorem nil {p : Presence} (h : p.announced = false) : p.InStep [] where
  orderly := .nil
  announced := h
  signaled := by simp [h]

/-- Whether the appliance is there is for others to say. -/
theorem withPresent {p : Presence} {signals : List Signal} (h : p.InStep signals)
    (present : Bool) : InStep { p with present } signals :=
  ⟨h.orderly, h.announced, h.signaled⟩

/-- A call that tells nothing new, because it is refused or a push, leaves the flags. -/
theorem concat_silent {p : Presence} {signals : List Signal} {s : Signal} (h : p.InStep signals)
    (hannounces : s.announces = false) (htold : s.told? = none)
    (hfirst : s.sent.call.presumesDevice = true → p.announced = true)
    (htruthful : ∀ there, s.sent.call.presence? = some there → s.present = there)
    (hpushed : s.sent.call.pushes = true → s.present = true → p.presentSignaled = true) :
    p.InStep (signals ++ [s]) where
  orderly := by
    refine h.orderly.concat (by simp [hannounces]) ?_ (by simp [htold]) htruthful ?_
    · intro hpresumes
      rw [← h.announced]
      exact hfirst hpresumes
    · intro hpushes hpresent
      have hannounced : p.announced = true := hfirst (by simp [Call.presumesDevice, hpushes])
      have hodd := h.signaled hannounced
      rw [hpushed hpushes hpresent] at hodd
      exact h.orderly.getLast?_told (of_decide_eq_true hodd.symm)
  announced := by simp [h.announced, hannounces]
  signaled := by simpa [htold] using h.signaled

/-- The device is announced. -/
theorem announce {p : Presence} {signals : List Signal} (h : p.InStep signals)
    (hannounced : p.announced = false) (vdc device : DsUid) (present : Bool) :
    InStep { p with announced := true, presentSignaled := false }
      (signals ++ [⟨⟨.announceDevice vdc device, true⟩, present⟩]) := by
  have hnone : signals.any Signal.announces = false := h.announced ▸ hannounced
  refine ⟨h.orderly.concat (fun _ => hnone) ?_ ?_ ?_ ?_, ?_, ?_⟩
  · simp [Call.presumesDevice, Call.presence?, Call.pushes]
  · simp [Signal.told?, Call.presence?]
  · simp [Call.presence?]
  · simp [Call.pushes]
  · simp [Signal.announces, Call.announces]
  · simp [Signal.told?, Call.presence?, h.orderly.told_eq_nil hnone]

/-- The bus is told how things are with the appliance, which it did not know. -/
theorem tell {p : Presence} {signals : List Signal} (h : p.InStep signals)
    (hannounced : p.announced = true) {call : Call} {there : Bool}
    (hcall : call.presence? = some there) (hnews : p.presentSignaled = !there) :
    InStep { p with presentSignaled := there } (signals ++ [⟨⟨call, true⟩, there⟩]) := by
  have hpushes : call.pushes = false := by cases call <;> simp_all [Call.presence?, Call.pushes]
  have hsilent : call.announces = false := by
    cases call <;> simp_all [Call.presence?, Call.announces]
  have htold : Signal.told? ⟨⟨call, true⟩, there⟩ = some there := hcall
  have hparity := h.signaled hannounced
  rw [hnews] at hparity
  refine ⟨h.orderly.concat ?_ ?_ ?_ ?_ ?_, ?_, ?_⟩
  · simp [Signal.announces, hsilent]
  · intro _
    rw [← h.announced]
    exact hannounced
  · intro said hsaid
    obtain rfl : said = there := by simpa [htold] using hsaid.symm
    cases said <;> simp_all
  · simp [hcall]
  · simp [hpushes]
  · simp [h.announced, Signal.announces, hsilent]
  · intro _
    cases there <;> simp_all <;> omega

end InStep

end Presence

namespace Bridge

open Presence (InStep)

variable {b : Bridge} {t : Transport} {s : BridgeState} {now : Time} {signals : List Signal}

/-- A pass of work makes at most one call. -/
theorem length_sent_work_le (b : Bridge) (t : Transport) (s : BridgeState) (now : Time) :
    (b.work t s now).sent.length ≤ 1 := by
  apply work_induction (P := fun worked => worked.sent.length ≤ 1)
  · exact Nat.zero_le 1
  · exact Nat.zero_le 1
  · intro call _
    exact Nat.le_refl 1
  · intro call _
    exact Nat.le_refl 1

theorem concernsDevice_of_dueCall? {call : Call} (h : b.dueCall? s now = some call) :
    call.concernsDevice = true := by
  simp only [dueCall?] at h
  repeat' split at h
  all_goals cases h <;> rfl

/-- All its calls are about the device. -/
theorem concernsDevice_of_mem_work {x : Sent} (h : x ∈ (b.work t s now).sent) :
    x.call.concernsDevice = true := by
  revert h
  apply work_induction (P := fun worked => x ∈ worked.sent → x.call.concernsDevice = true)
  · simp
  · simp
  · intro call hdue hx
    rw [List.mem_singleton.1 hx]
    exact concernsDevice_of_dueCall? hdue
  · intro call hdue hx
    rw [List.mem_singleton.1 hx]
    exact concernsDevice_of_dueCall? hdue

/-- An attempt keeps the flags in step if they are so whether the call is taken or refused. -/
theorem inStep_attempt {call : Call} {next : BridgeState} {step : WorkStep} {present : Bool}
    (hrefused : s.presence.InStep (signals ++ [⟨⟨call, false⟩, present⟩]))
    (htaken : next.presence.InStep (signals ++ [⟨⟨call, true⟩, present⟩])) :
    (attempt t call s step next).state.presence.InStep
      (signals ++ (attempt t call s step next).sent.map (Signal.mk · present)) := by
  cases htakes : t.takes call with
  | false => simpa [attempt, Transport.send, htakes] using hrefused
  | true => simpa [attempt, Transport.send, htakes] using htaken

/-- The bus is told, or told in vain, how things are with the appliance, which it did not know. -/
theorem inStep_tell {call : Call} {step : WorkStep} {there : Bool} (h : s.presence.InStep signals)
    (hannounced : s.presence.announced = true) (hcall : call.presence? = some there)
    (hpresent : s.presence.present = there) (hnews : s.presence.presentSignaled = !there) :
    let told := attempt t call s step
      { s with presence := { s.presence with presentSignaled := there } }
    told.state.presence.InStep (signals ++ told.sent.map (Signal.mk · s.presence.present)) := by
  have hpushes : call.pushes = false := by cases call <;> simp_all [Call.presence?, Call.pushes]
  refine inStep_attempt ?_ ?_
  · refine h.concat_silent rfl rfl (fun _ => hannounced) ?_ (by simp [hpushes])
    intro said hsaid
    simpa [hcall, hpresent] using hsaid
  · rw [hpresent]
    exact h.tell hannounced hcall hnews

/-- In a session a pass of work keeps the flags in step. -/
theorem inStep_work (hsession : t.session = true) (h : s.presence.InStep signals) :
    (b.work t s now).state.presence.InStep
      (signals ++ (b.work t s now).sent.map (Signal.mk · s.presence.present)) := by
  simp only [work, hsession, Bool.not_true, Bool.false_eq_true, if_false]
  split
  · rename_i hannounced
    refine inStep_attempt ?_ (h.announce (by simpa using hannounced) _ _ _)
    refine h.concat_silent rfl rfl ?_ ?_ ?_
    · simp [Call.presumesDevice, Call.presence?, Call.pushes]
    · simp [Call.presence?]
    · simp [Call.pushes]
  rename_i hannounced
  replace hannounced : s.presence.announced = true := by simpa using hannounced
  split
  · rename_i hthere
    obtain ⟨hpresent, hsignaled⟩ : s.presence.present = true ∧
        s.presence.presentSignaled = false := by simpa using hthere
    exact inStep_tell h hannounced rfl hpresent hsignaled
  split
  · rename_i hgone
    obtain ⟨hpresent, hsignaled⟩ : s.presence.present = false ∧
        s.presence.presentSignaled = true := by simpa using hgone
    exact inStep_tell h hannounced rfl hpresent hsignaled
  rename_i hthere _
  split
  · have hpushed : s.presence.present = true → s.presence.presentSignaled = true := by
      intro hpresent
      simpa [hpresent] using hthere
    -- Taken or refused, a push tells nothing of the appliance.
    have hsilent : ∀ taken, s.presence.InStep
        (signals ++ [⟨⟨.pushProperty b.identity.device (s.pushProperties now), taken⟩,
          s.presence.present⟩]) := by
      intro taken
      refine h.concat_silent ?_ ?_ (fun _ => hannounced) ?_ (fun _ => hpushed)
      · simp [Signal.announces, Call.announces]
      · simp [Signal.told?, Call.presence?]
      · simp [Call.presence?]
    exact inStep_attempt (hsilent false) (hsilent true)
  · simpa using h

variable {σ : Type} {line : Line σ} {event : BusEvent} {w : World σ}

/-- Calls that answer an event are not about the device. -/
theorem not_concernsDevice_of_mem_handle {x : Sent} (h : x ∈ (b.handle line t event now w).sent) :
    x.call.concernsDevice = false := by
  cases event <;> simp only [handle] at h
  case newSession => simp_all [Transport.send]; rfl
  case ping =>
    split at h
    · simp_all [Transport.send]
      rfl
    · simp at h
  all_goals first | simp at h | (split at h <;> simp at h)

end Bridge

namespace Bridge

variable {σ : Type}

/-- A session that starts or ends takes the announcement back. -/
theorem announced_handle (b : Bridge) (line : Line σ) (t : Transport) {event : BusEvent}
    (now : Time) (w : World σ) (h : event.changesSession = true) :
    (b.handle line t event now w).world.state.presence.announced = false := by
  cases event <;> first | rfl | cases h

/-- Other events leave the flags alone. -/
theorem presence_handle (b : Bridge) (line : Line σ) (t : Transport) {event : BusEvent}
    (now : Time) (w : World σ) (h : event.changesSession = false) :
    (b.handle line t event now w).world.state.presence = w.state.presence := by
  rcases b.state_handle_cases line t event now w with ⟨hchanges, -⟩ | ⟨_, _, _, hstate⟩ |
    ⟨-, hstate⟩
  · rw [h] at hchanges
    cases hchanges
  · rw [hstate]
    rfl
  · rw [hstate]
    cases (line.fetchReport w.appliance).1 <;> rfl

end Bridge

namespace Moment

/-- Is what the bus was told void after the turn? -/
def cuts (m : Moment) : Bool :=
  match m.action with
  | .event _ event _ => event.changesSession
  | .work t _ inUse => !inUse && !t.session
  | _ => false

/-- The signals of a turn. -/
def signals (m : Moment) : List Signal :=
  (m.sent.filter (·.call.concernsDevice)).map (Signal.mk · m.before.presence.present)

/-- The signals of turns that were noted with the latest one first, in the order of time. -/
def allSignals (piece : List Moment) : List Signal := piece.reverse.flatMap signals

@[simp] theorem allSignals_nil : allSignals [] = [] := rfl

@[simp] theorem allSignals_cons (m : Moment) (piece : List Moment) :
    allSignals (m :: piece) = allSignals piece ++ m.signals := by
  simp [allSignals]

end Moment

namespace Course

variable {σ : Type} {b : Bridge} {line : Line σ}

/-- A turn that cuts the past makes no signals and leaves the device not announced. -/
theorem of_cuts {c : Course σ} {a : Action} (h : (c.moment b line a).cuts = true) :
    (c.moment b line a).signals = [] ∧
      (c.step b line a).state.presence.announced = false := by
  cases a with
  | event t event now =>
    refine ⟨?_, b.announced_handle line t now c.world h⟩
    simp only [Moment.signals, List.map_eq_nil_iff, List.filter_eq_nil_iff]
    intro x hx
    simpa using Bridge.not_concernsDevice_of_mem_handle hx
  | work t now inUse =>
    obtain ⟨rfl, hsession⟩ : inUse = false ∧ t.session = false := by
      simpa [Moment.cuts, moment] using h
    simp [Moment.signals, moment, act, Bridge.tryWork, Bridge.work, hsession, withState]
  | poll t now clock => cases h
  | refresh now => cases h
  | flag => cases h
  | press button => cases h
  | presence present => cases h

/-- A turn that does not cut the past keeps the flags in step with the signals. -/
theorem inStep_act {c : Course σ} {a : Action} {signals : List Signal}
    (hcuts : (c.moment b line a).cuts = false) (h : c.state.presence.InStep signals) :
    (c.act b line a).1.state.presence.InStep (signals ++ (c.moment b line a).signals) := by
  -- All turns but passes of work make no signals and leave the flags as they are.
  have hsilent : ∀ {p : Presence}, (∀ x ∈ (c.act b line a).2, x.call.concernsDevice = false) →
      p.InStep signals → p.InStep (signals ++ (c.moment b line a).signals) := by
    intro p hcalls hp
    have hnone : (c.act b line a).2.filter (·.call.concernsDevice) = [] := by
      rw [List.filter_eq_nil_iff]
      intro x hx
      simpa using hcalls x hx
    simpa [Moment.signals, moment, hnone] using hp
  cases a with
  | poll t now clock =>
    refine hsilent ?_ ?_
    · simp only [act, Bridge.poll, Bridge.takePoll]
      split
      · simp
      · simp [Transport.send]
        rfl
    · simp only [act, Bridge.poll, Bridge.takePoll]
      split <;> exact h
  | refresh now =>
    refine hsilent (by simp [act]) ?_
    simp only [act, Line.fetchState]
    split <;> exact h
  | flag =>
    refine hsilent ?_ ?_
    · simp only [act]
      split <;> simp
    · simp only [act]
      split <;> exact h
  | press button => exact hsilent (by simp [act]) h
  | event t event now =>
    refine hsilent (fun x hx => Bridge.not_concernsDevice_of_mem_handle hx) ?_
    exact b.presence_handle line t now c.world hcuts ▸ h
  | work t now inUse =>
    cases inUse with
    | true => exact hsilent (by simp [act, Bridge.tryWork]) h
    | false =>
      have hsession : t.session = true := by simpa [Moment.cuts, moment] using hcuts
      have hall : (c.moment b line (.work t now false)).signals =
          (b.work t c.state now).sent.map (Signal.mk · c.state.presence.present) := by
        have hfilter : (b.work t c.state now).sent.filter (·.call.concernsDevice) =
            (b.work t c.state now).sent :=
          List.filter_eq_self.2 fun x hx => Bridge.concernsDevice_of_mem_work hx
        exact congrArg _ hfilter
      rw [hall]
      exact Bridge.inStep_work hsession h
  | presence present => exact hsilent (by simp [act]) (h.withPresent present)

/-- The flags are in step with the signals since the last cut, and before it all was in order. -/
def InStep (c : Course σ) : Prop :=
  ∃ current earlier, c.past.splitOnP Moment.cuts = current :: earlier ∧
    c.state.presence.InStep (Moment.allSignals current) ∧
      ∀ piece ∈ earlier, Signal.Orderly (Moment.allSignals piece)

theorem InStep.start {c : Course σ} (hpast : c.past = [])
    (hannounced : c.state.presence.announced = false) : c.InStep :=
  ⟨[], [], by rw [hpast, List.splitOnP_nil], .nil hannounced, by simp⟩

theorem InStep.step {c : Course σ} (h : c.InStep) (a : Action) : (c.step b line a).InStep := by
  obtain ⟨current, earlier, hsplit, hcurrent, hearlier⟩ := h
  cases hcuts : (c.moment b line a).cuts with
  | true =>
    obtain ⟨-, hannounced⟩ := of_cuts hcuts
    refine ⟨[], current :: earlier, ?_, .nil hannounced, ?_⟩
    · rw [past_step, List.splitOnP_cons_eq_if_modifyHead, if_pos hcuts, hsplit]
    · intro piece hpiece
      rcases List.mem_cons.1 hpiece with rfl | hpiece
      · exact hcurrent.orderly
      · exact hearlier piece hpiece
  | false =>
    refine ⟨c.moment b line a :: current, earlier, ?_, ?_, hearlier⟩
    · rw [past_step, List.splitOnP_cons_eq_if_modifyHead, if_neg (by simp [hcuts]), hsplit]
      rfl
    · rw [Moment.allSignals_cons]
      exact inStep_act hcuts hcurrent

/-- What every turn is noted as, whatever the course, every turn of the past is. -/
theorem forall_mem_past {P : Moment → Prop} (hmoment : ∀ (c : Course σ) a, P (c.moment b line a))
    {c : Course σ} (hpast : c.past = []) (actions : List Action) :
    ∀ m ∈ (c.run b line actions).past, P m := by
  refine run_induction b line (P := fun c => ∀ m ∈ c.past, P m) (by simp [hpast]) ?_ actions
  intro c a hc m hm
  rcases List.mem_cons.1 hm with rfl | hm
  · exact hmoment c a
  · exact hc m hm

/-- **The bus hears of the device in order.** Whatever happens around a bridge whose device is not
announced at the start: a pass of work makes at most one call, and the calls about the device
between two cuts of the past are in order. The turns that cut the past make no such calls
themselves. -/
theorem orderly_of_run {c₀ : Course σ} (hpast : c₀.past = [])
    (hannounced : c₀.state.presence.announced = false) (actions : List Action) :
    let past := (c₀.run b line actions).past
    (∀ m ∈ past, ∀ t now inUse, m.action = .work t now inUse → m.sent.length ≤ 1) ∧
      (∀ m ∈ past, m.cuts = true → m.signals = []) ∧
        ∀ piece ∈ past.splitOnP Moment.cuts, Signal.Orderly (Moment.allSignals piece) := by
  refine ⟨?_, ?_, ?_⟩
  · refine forall_mem_past ?_ hpast actions
    rintro c a t now inUse rfl
    cases inUse with
    | true => simp [moment, act, Bridge.tryWork]
    | false => exact b.length_sent_work_le t c.state now
  · exact forall_mem_past (fun c a h => (of_cuts h).1) hpast actions
  · have hstart := InStep.start hpast hannounced
    have hrun := run_induction b line hstart (fun _ a h => h.step a) actions
    obtain ⟨current, earlier, hsplit, hcurrent, hearlier⟩ := hrun
    intro piece hpiece
    rw [hsplit] at hpiece
    rcases List.mem_cons.1 hpiece with rfl | hpiece
    · exact hcurrent.orderly
    · exact hearlier piece hpiece

/-- In the first session the appliance goes and comes back, which the bus is told in its second
attempt; in the second session the device is announced again. -/
theorem orderly_in_two_sessions :
    let work : Action := .work (.loopback true) 0 false
    let refused : Action := .work ⟨true, fun _ => .error (.rejected "")⟩ 0 false
    let c₀ : Course Unit := start .sample {} .empty ()
    let past := (c₀.run .sample ⟨"", fun _ _ => (.none, ())⟩ [work, work, .presence false, work,
      .presence true, refused, work, .event (.loopback true) .newSession 0, work, work]).past
    c₀.past = [] ∧ c₀.state.presence.announced = false ∧
      (past.splitOnP Moment.cuts).map (fun piece => Signal.told (Moment.allSignals piece)) =
        [[true], [true, false, true]] ∧
      ∀ piece ∈ past.splitOnP Moment.cuts, Signal.Orderly (Moment.allSignals piece) :=
  ⟨rfl, rfl, by decide +kernel, (orderly_of_run rfl rfl _).2.2⟩

end Course

end HumidifierBridge
