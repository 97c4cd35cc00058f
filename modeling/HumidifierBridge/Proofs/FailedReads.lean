import HumidifierBridge.Appliance.Script
import HumidifierBridge.Proofs.Answers
import HumidifierBridge.Proofs.JsonDocuments
import HumidifierBridge.Proofs.Reads

/-!
# Reads that fail

A read succeeds if and only if all of a success comes back and its body is a document that is an
object (`Answer.HasObject`). `Answer.FailsWith` lists what is reported of any other answer.

`Line.Fetched` says what a read does, and `Bridge.PollEffect` what a poll makes of one. A poll that
could not read the appliance takes the wish for a push back and tells the bus controller that the
device is alive; nothing depends on whether the controller takes that.
-/

namespace HumidifierBridge

/-! ### Documents that are objects -/

namespace Json

theorem kindName_settled (v : Json) : v.settled.kindName = v.kindName := by
  cases v <;> simp [settled, kindName]

theorem exists_eq_object_of_settled {v : Json} {members : List (String × Json)}
    (h : v.settled = .object members) : ∃ raw, v = .object raw := by
  cases v with
  | object raw => exact ⟨raw, rfl⟩
  | _ => simp [settled] at h

end Json

namespace DataReport

variable {text : List Char}

theorem exists_parse_eq_ok_iff :
    (∃ report, parse text = .ok report) ↔ ∃ members, Json.Document (.object members) text := by
  constructor
  · rintro ⟨report, h⟩
    simp only [parse] at h
    split at h
    · cases h
    · rename_i members hparse
      obtain ⟨v, hv, hsettled⟩ := Json.parse?_eq_some_iff.1 hparse
      obtain ⟨raw, rfl⟩ := Json.exists_eq_object_of_settled hsettled
      exact ⟨raw, hv⟩
    · cases h
  · rintro ⟨members, h⟩
    have hparse := Json.parse?_eq_some_iff.2 ⟨_, h, rfl⟩
    simp [parse, hparse, Json.settled]

/-- What is reported of a text that is no document, or one that is no object. -/
theorem parse_eq_error {e : ParseError} (h : parse text = .error e) :
    (e = .json ∧ ∀ v, ¬Json.Document v text) ∨ ∃ v, Json.Document v text ∧
      (∀ members, v ≠ .object members) ∧
        e = .unexpectedFormat ("expected a JSON object, got " ++ v.kindName) := by
  simp only [parse] at h
  split at h
  · rename_i hparse
    cases h
    refine .inl ⟨rfl, fun v hv => ?_⟩
    rw [Json.parse?_eq_some_iff.2 ⟨v, hv, rfl⟩] at hparse
    cases hparse
  · cases h
  · rename_i other hother hparse
    cases h
    obtain ⟨v, hv, rfl⟩ := Json.parse?_eq_some_iff.1 hparse
    refine .inr ⟨v, hv, ?_, by rw [v.kindName_settled]⟩
    rintro members rfl
    exact hother _ (by rw [Json.settled])

end DataReport

/-! ### Answers without a report -/

namespace Answer

/-- All of a success came back. -/
def Whole : Answer → Prop
  | .none => False
  | .response status _ complete => IsSuccess status ∧ complete = true

instance : DecidablePred Whole
  | .none => isFalse id
  | .response _ _ _ => inferInstanceAs (Decidable (_ ∧ _))

/-- All of a success came back, and its body is an object. Texts of a document are Unicode: half of
a surrogate pair is none without the other. -/
def HasObject (a : Answer) : Prop :=
  ∃ text members, a.Worth (.ok text) ∧ Json.Document (.object members) text

/-- Why there is no report in an answer. -/
inductive FailsWith (a : Answer) : BridgeError → Prop where
  /-- No success, or not all of one. -/
  | protocol {e : ProtocolError} (h : a.Worth (.error e)) : FailsWith a (.protocol e)
  | malformed {text : List Char} (h : a.Worth (.ok text)) (hdocument : ∀ v, ¬Json.Document v text) :
      FailsWith a (.parse .json)
  | noObject {text : List Char} {v : Json} (h : a.Worth (.ok text)) (hv : Json.Document v text)
      (hobject : ∀ members, v ≠ .object members) :
      FailsWith a (.parse (.unexpectedFormat ("expected a JSON object, got " ++ v.kindName)))

variable {a : Answer}

theorem Worth.whole_iff {result : Except ProtocolError (List Char)} (h : a.Worth result) :
    a.Whole ↔ ∃ text, result = .ok text := by
  cases h with
  | noAnswer => simp [Whole]
  | cutShort h => simp [Whole]
  | ignored h => simp [Whole, mt not_isIgnored_of_isSuccess (not_not.2 h)]
  | refused hsuccess hignored => simp [Whole, hsuccess]
  | success h => simp [Whole, h]

theorem FailsWith.kind_eq {e : BridgeError} (h : a.FailsWith e) :
    e.kind = if a.Whole then .parse else .connect := by
  have hwhole : ∀ {text}, a.Worth (.ok text) → a.Whole := fun h => h.whole_iff.2 ⟨_, rfl⟩
  cases h with
  | protocol h =>
    have hnot : ¬a.Whole := by simp [h.whole_iff]
    exact (if_neg hnot).symm
  | malformed h _ => exact (if_pos (hwhole h)).symm
  | noObject h _ _ => exact (if_pos (hwhole h)).symm

theorem exists_report_eq_ok_iff : (∃ report, a.report = .ok report) ↔ a.HasObject := by
  constructor
  · rintro ⟨report, h⟩
    have hworth := a.worth_result
    simp only [Answer.report] at h
    split at h
    · cases h
    · rename_i text hresult
      rw [hresult] at hworth
      split at h
      · cases h
      · rename_i hparse
        obtain ⟨members, hdocument⟩ := DataReport.exists_parse_eq_ok_iff.1 ⟨_, hparse⟩
        exact ⟨text, members, hworth, hdocument⟩
  · rintro ⟨text, members, hworth, hdocument⟩
    obtain ⟨report, hparse⟩ := DataReport.exists_parse_eq_ok_iff.2 ⟨members, hdocument⟩
    exact ⟨report, by simp only [Answer.report, hworth.result_eq, hparse]⟩

theorem failsWith_of_report {e : BridgeError} (h : a.report = .error e) : a.FailsWith e := by
  have hworth := a.worth_result
  simp only [Answer.report] at h
  split at h
  · rename_i hresult
    cases h
    exact .protocol (hresult ▸ hworth)
  · rename_i text hresult
    rw [hresult] at hworth
    split at h
    · rename_i hparse
      cases h
      rcases DataReport.parse_eq_error hparse with ⟨rfl, hnone⟩ | ⟨v, hv, hobject, rfl⟩
      · exact .malformed hworth hnone
      · exact .noObject hworth hv hobject
    · cases h

end Answer

/-! ### Reads and polls -/

variable {σ : Type}

namespace Line

/-- What a read comes to. -/
structure Fetched (line : Line σ) (s : BridgeState) (now : Time) (a : σ)
    (r : Except BridgeError Bool × BridgeState × σ) : Prop where
  /-- It succeeds with an object, and with nothing else. -/
  succeeds_iff : (∃ changed, r.1 = .ok changed) ↔ (line.dataAnswer a).HasObject
  failsWith : ∀ e, r.1 = .error e → (line.dataAnswer a).FailsWith e
  kind : ∀ e, r.1 = .error e → e.kind = if (line.dataAnswer a).Whole then .parse else .connect
  /-- Where it succeeds, the report is applied. -/
  applied : ∀ changed, r.1 = .ok changed → ∃ report,
    (line.dataAnswer a).report = .ok report ∧ s.applyReport report now = (r.2.1, changed)
  /-- Where it fails, the state is as before. -/
  state : ∀ e, r.1 = .error e → r.2.1 = s

/-- A read that succeeds applies the report, and one that fails does nothing. -/
theorem fetchState_eq (line : Line σ) (s : BridgeState) (now : Time) (a : σ) :
    line.fetchState s now a =
      match (line.dataAnswer a).report with
      | .ok report =>
        (.ok (s.applyReport report now).2, (s.applyReport report now).1, (line.fetchReport a).2)
      | .error e => (.error e, s, (line.fetchReport a).2) := by
  rw [← fetchReport_fst]
  unfold fetchState
  rcases line.fetchReport a with ⟨_ | _, _⟩ <;> rfl

theorem fetched_fetchState (line : Line σ) (s : BridgeState) (now : Time) (a : σ) :
    line.Fetched s now a (line.fetchState s now a) := by
  rw [fetchState_eq]
  cases hreport : (line.dataAnswer a).report with
  | ok report =>
    exact {
      succeeds_iff := iff_of_true ⟨_, rfl⟩ (Answer.exists_report_eq_ok_iff.1 ⟨report, hreport⟩)
      failsWith := by simp
      kind := by simp
      applied := by
        rintro _ ⟨⟩
        exact ⟨report, hreport, rfl⟩
      state := by simp }
  | error e =>
    have hfails := Answer.failsWith_of_report hreport
    have hobject : ¬(line.dataAnswer a).HasObject := by
      rw [← Answer.exists_report_eq_ok_iff, hreport]
      simp
    exact {
      succeeds_iff := iff_of_false (by simp) hobject
      failsWith := by
        rintro _ ⟨⟩
        exact hfails
      kind := by
        rintro _ ⟨⟩
        exact hfails.kind_eq
      applied := by simp
      state := fun _ _ => rfl }

end Line

/-- A poll that succeeded puts the next one off by the reload interval, or by a minute where the
clock cannot count as far as that. -/
theorem Schedule.putOff_of_ne_failed {outcome : PollOutcome} (h : outcome ≠ .failed)
    (schedule : Schedule) (clock : Time) (reload : Nat) :
    schedule.putOff outcome clock reload =
      { schedule with
        nextDue := some (if clock + reload < schedule.clockLimit then clock + reload
          else clock + 60000) } := by
  cases outcome with
  | failed => exact absurd rfl h
  | _ => rfl

-- The clock can count this interval from its start, but not from five seconds later.
example :
    let s : Schedule := {}
    (s.record .unchanged 0 9223372036854775806).nextDue = some 9223372036854775806000 ∧
      (s.record .unchanged 5000 9223372036854775806).nextDue = some 65000 := by
  decide

/-- A poll that failed puts the next one off by a minute. -/
theorem Schedule.putOff_failed (schedule : Schedule) (clock : Time) (reload : Nat) :
    schedule.putOff .failed clock reload = { schedule with nextDue := some (clock + 60000) } := by
  simp only [putOff, delay, dueAfter_retryDelay]
  rfl

namespace Bridge

/-- What a poll comes to, with each transport. -/
structure PollEffect (b : Bridge) (line : Line σ) (s : BridgeState) (schedule : Schedule)
    (now clock : Time) (a : σ) (poll : Transport → Polled × Schedule × σ) : Prop where
  /-- A poll that cannot read the appliance takes the wish for a push back, sends a pong, and puts
  the next poll off by a minute. -/
  failed : ¬(line.dataAnswer a).HasObject → ∀ t, poll t =
    (⟨.failed, { s with dirty := false },
        [⟨.sendPong b.identity.device, t.takes (.sendPong b.identity.device)⟩]⟩,
      { schedule with nextDue := some (clock + 60000) }, (line.fetchState s now a).2.2)
  /-- A poll that can takes the report in, and wishes for a push where that is news. It puts the
  next poll off by the reload interval, or by a minute where the clock cannot count as far as
  that. -/
  succeeded : ∀ changed, (line.fetchState s now a).1 = .ok changed → ∀ t, poll t =
    (⟨if changed then .changed else .unchanged,
        { (line.fetchState s now a).2.1 with dirty := changed }, []⟩,
      { schedule with
        nextDue := some (if clock + s.settings.reload < schedule.clockLimit then
          clock + s.settings.reload else clock + 60000) },
      (line.fetchState s now a).2.2)
  /-- Whether calls are taken makes no difference. -/
  transport : ∀ t t', (poll t).1.outcome = (poll t').1.outcome ∧
    (poll t).1.state = (poll t').1.state ∧ (poll t).2 = (poll t').2

/-- A poll is a read, what is made of its result, and the next entry of the schedule. -/
theorem poll_eq (b : Bridge) (line : Line σ) (t : Transport) (s : BridgeState)
    (schedule : Schedule) (now clock : Time) (a : σ) :
    let polled := b.takePoll t s (line.dataAnswer a).report now
    b.poll line t s schedule now clock a =
      (polled, schedule.putOff polled.outcome clock s.settings.reload,
        (line.fetchReport a).2) := rfl

theorem pollEffect_poll (b : Bridge) (line : Line σ) (s : BridgeState) (schedule : Schedule)
    (now clock : Time) (a : σ) :
    b.PollEffect line s schedule now clock a
      fun t => b.poll line t s schedule now clock a where
  failed h t := by
    cases hreport : (line.dataAnswer a).report with
    | ok report => exact absurd (Answer.exists_report_eq_ok_iff.1 ⟨report, hreport⟩) h
    | error e =>
      simp only [poll_eq, line.fetchState_eq, hreport, takePoll, Schedule.putOff_failed]
      rfl
  succeeded changed h t := by
    rw [line.fetchState_eq] at h
    cases hreport : (line.dataAnswer a).report with
    | error e => simp [hreport] at h
    | ok report =>
      rw [hreport] at h
      obtain rfl : (s.applyReport report now).2 = changed := by simpa using h
      have houtcome : (if (s.applyReport report now).2 then PollOutcome.changed else .unchanged) ≠
          .failed := by
        split <;> decide
      simp only [poll_eq, line.fetchState_eq, hreport, takePoll,
        Schedule.putOff_of_ne_failed houtcome]
  transport t t' := by
    simp only [poll_eq]
    cases (line.dataAnswer a).report with
    | ok report => exact ⟨rfl, rfl, rfl⟩
    | error e => exact ⟨rfl, rfl, rfl⟩

/-- **A read that fails changes nothing.** For any state and any answer of the appliance, this is
what a read and a poll come to. -/
theorem effects_of_read (b : Bridge) (line : Line σ) (s : BridgeState) (schedule : Schedule)
    (now clock : Time) (a : σ) :
    line.Fetched s now a (line.fetchState s now a) ∧
      b.PollEffect line s schedule now clock a
        fun t => b.poll line t s schedule now clock a :=
  ⟨line.fetched_fetchState s now a, b.pollEffect_poll line s schedule now clock a⟩

/-- A reload interval that ends at a time the clock cannot count is not waited for: the appliance
answers, and is polled again a minute later. -/
theorem nextDue_poll_uncounted :
    let s : BridgeState := .new .sample { reloadSeconds := 9223372036854775807 }
    let script : Script := { dataAnswers := [.response 200 "\x7b\x7d".toUTF8.toList true] }
    let line := Script.line "http://v"
    (line.fetchState s 0 script).1 = .ok false ∧
      (sample.poll line (.loopback true) s {} 0 0 script).2.1.nextDue = some 60000 ∧
        (sample.poll line (.loopback true) s {} 0 0 script).2.1.nextDue ≠
          some (0 + s.settings.reload) := by
  decide +kernel

end Bridge

end HumidifierBridge
