import HumidifierBridge.Bridge.Poll

/-!
# Transcripts

`Line.noting` is a line that notes, in order, the requests that are made on it. What is done on it
comes out as on the line itself, so that a statement about the notes is one about the requests that
reach the appliance.
-/

namespace HumidifierBridge

namespace Button

/-- Each button has a request of its own. -/
theorem body_inj {b c : Button} : b.body = c.body ↔ b = c := by
  cases b <;> cases c <;> decide

end Button

namespace Line

variable {σ : Type}

/-- The request for the data document. -/
def dataRequest (line : Line σ) : Request := ⟨ApplianceAddress.url line.base dataPath, none⟩

/-- The request that presses a button. -/
def pressRequest (line : Line σ) (b : Button) : Request :=
  ⟨ApplianceAddress.url line.base buttonPath, some b.body⟩

theorem pressRequest_injective (line : Line σ) : Function.Injective line.pressRequest := by
  intro b c h
  simpa [pressRequest, Button.body_inj] using h

@[simp] theorem dataRequest_ne_pressRequest (line : Line σ) (b : Button) :
    line.dataRequest ≠ line.pressRequest b := by
  simp [dataRequest, pressRequest]

/-- The line that also notes the requests made on it. -/
def noting (line : Line σ) : Line (σ × List Request) where
  base := line.base
  answer r s := ((line.answer r s.1).1, ((line.answer r s.1).2, s.2 ++ [r]))

@[simp] theorem fetchReport_noting (line : Line σ) (a : σ) (noted : List Request) :
    line.noting.fetchReport (a, noted) =
      ((line.fetchReport a).1, ((line.fetchReport a).2, noted ++ [line.dataRequest])) := rfl

@[simp] theorem press_noting (line : Line σ) (b : Button) (a : σ) (noted : List Request) :
    line.noting.press b (a, noted) =
      ((line.press b a).1, ((line.press b a).2, noted ++ [line.pressRequest b])) := rfl

/-- The presses that a scene call plans are noted one by one after the request for data. -/
theorem pressAll_noting (line : Line σ) {presses : List Button} (a : σ) (noted : List Request)
    (h : ∀ b ∈ presses, ∀ a, (line.press b a).1 = .ok ()) :
    line.noting.pressAll presses (a, noted) =
      (.ok (), (presses.foldl (fun a b => (line.press b a).2) a,
        noted ++ presses.map line.pressRequest)) := by
  induction presses generalizing a noted with
  | nil => simp [pressAll]
  | cons b rest ih =>
    have hb := h b List.mem_cons_self a
    simp only [pressAll, press_noting, hb]
    rw [ih _ _ fun c hc => h c (List.mem_cons_of_mem b hc)]
    simp

end Line

end HumidifierBridge
