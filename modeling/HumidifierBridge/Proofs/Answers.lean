import HumidifierBridge.Proofs.Transcript

/-!
# What an answer is worth

`Answer.Worth` lists what is made of an answer: nothing where the connection failed or the status is
one whose answer is never used, the status where that is no success, and the body of a success.
Readings and presses go by the same list and make different things of it: a reading needs a body,
whereas a press was delivered unless nothing is made of the answer (`Answer.delivered_eq_ok_iff`).
-/

namespace HumidifierBridge

namespace Answer

/-- A status of a success. -/
def IsSuccess (status : Nat) : Prop := 200 ≤ status ∧ status ≤ 299

/-- A status whose answer is never used. -/
def IsIgnored (status : Nat) : Prop := status = 403 ∨ status = 404 ∨ status = 503

instance (status : Nat) : Decidable (IsSuccess status) := inferInstanceAs (Decidable (_ ∧ _))

instance (status : Nat) : Decidable (IsIgnored status) := inferInstanceAs (Decidable (_ ∨ _))

/-- The connection failed: nothing came back, or not all of the body of a success. -/
def Broken : Answer → Prop
  | .none => True
  | .response status _ complete => IsSuccess status ∧ complete = false

/-- There is an answer, with a status for which it is never used. -/
def Ignored : Answer → Prop
  | .none => False
  | .response status _ _ => IsIgnored status

instance : DecidablePred Broken
  | .none => isTrue trivial
  | .response _ _ _ => inferInstanceAs (Decidable (_ ∧ _))

instance : DecidablePred Ignored
  | .none => isFalse id
  | .response status _ _ => inferInstanceAs (Decidable (IsIgnored status))

/-- What is made of an answer. -/
inductive Worth : Answer → Except ProtocolError (List Char) → Prop where
  | noAnswer : Worth .none (.error (.http .noAnswer))
  | cutShort {status : Nat} {body : List UInt8} (h : IsSuccess status) :
      Worth (.response status body false) (.error (.http .cutShort))
  | ignored {status : Nat} {body : List UInt8} {complete : Bool} (h : IsIgnored status) :
      Worth (.response status body complete) (.error (.ignoredStatus status))
  | refused {status : Nat} {body : List UInt8} {complete : Bool} (hsuccess : ¬ IsSuccess status)
      (hignored : ¬ IsIgnored status) :
      Worth (.response status body complete) (.error (.status status))
  | success {status : Nat} {body : List UInt8} (h : IsSuccess status) :
      Worth (.response status body true) (.ok (Text.decodeLossy body))

theorem not_isIgnored_of_isSuccess {status : Nat} (h : IsSuccess status) : ¬ IsIgnored status := by
  obtain ⟨hleast, hmost⟩ := h
  rintro (rfl | rfl | rfl) <;> omega

theorem isSuccess_iff {status : Nat} : IsSuccess status ↔ ¬ (status < 200 ∨ 299 < status) := by
  rw [IsSuccess, not_or, Nat.not_lt, Nat.not_lt]

theorem Worth.result_eq {a : Answer} {result : Except ProtocolError (List Char)}
    (h : a.Worth result) : a.result = result := by
  cases h with
  | noAnswer => rfl
  | cutShort h => exact (if_neg (not_isIgnored_of_isSuccess h)).trans (if_neg (isSuccess_iff.1 h))
  | ignored h => exact if_pos h
  | refused hsuccess hignored =>
    exact (if_neg hignored).trans (if_pos (Decidable.not_not.1 (mt isSuccess_iff.2 hsuccess)))
  | success h => exact (if_neg (not_isIgnored_of_isSuccess h)).trans (if_neg (isSuccess_iff.1 h))

theorem exists_worth (a : Answer) : ∃ result, a.Worth result := by
  cases a with
  | none => exact ⟨_, .noAnswer⟩
  | response status body complete =>
    by_cases hignored : IsIgnored status
    · exact ⟨_, .ignored hignored⟩
    · by_cases hsuccess : IsSuccess status
      · cases complete with
        | true => exact ⟨_, .success hsuccess⟩
        | false => exact ⟨_, .cutShort hsuccess⟩
      · exact ⟨_, .refused hsuccess hignored⟩

theorem worth_result (a : Answer) : a.Worth a.result := by
  obtain ⟨result, h⟩ := a.exists_worth
  rw [h.result_eq]
  exact h

/-- A press was delivered unless nothing is made of the answer. -/
theorem delivered_eq_ok_iff (a : Answer) (button : Button) :
    a.delivered button = .ok () ↔ ¬ (a.Broken ∨ a.Ignored) := by
  have h := a.worth_result
  rw [delivered]
  generalize a.result = result at h ⊢
  cases h with
  | noAnswer => simp [Broken]
  | cutShort h => simp [Broken, h]
  | ignored h => simp [Ignored, h]
  | refused hsuccess hignored => simp [Broken, Ignored, hsuccess, hignored]
  | success h => simp [Broken, Ignored, not_isIgnored_of_isSuccess h]

/-- A press that was not delivered is reported with its button. -/
theorem delivered_of_broken_or_ignored {a : Answer} (h : a.Broken ∨ a.Ignored) (button : Button) :
    ∃ e, a.result = .error e ∧ a.delivered button = .error (.commandFailed button e) := by
  have hworth := a.worth_result
  rw [delivered]
  generalize a.result = result at hworth ⊢
  cases hworth with
  | noAnswer => exact ⟨_, rfl, rfl⟩
  | cutShort _ => exact ⟨_, rfl, rfl⟩
  | ignored _ => exact ⟨_, rfl, rfl⟩
  | refused hsuccess hignored => simp [Broken, Ignored, hsuccess, hignored] at h
  | success hsuccess => simp [Broken, Ignored, not_isIgnored_of_isSuccess hsuccess] at h

end Answer

end HumidifierBridge
