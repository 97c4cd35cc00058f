import HumidifierBridge.Appliance.Line

/-!
# A scripted appliance

An appliance that plays its answers from a script, for rehearsing what the bridge does. It notes the
requests that reach it.
-/

namespace HumidifierBridge

/-- The answers still to be played, and the requests so far. -/
structure Script where
  /-- Is there a way to the appliance at all? -/
  reachable : Bool := true
  /-- The answers to button presses; when they are used up, presses succeed. -/
  buttonAnswers : List Answer := []
  /-- The answers to all other requests; when they are used up, there is nothing to be found. -/
  dataAnswers : List Answer := []
  requests : List Request := []

namespace Script

/-- Does the request press a button? -/
def isPress (r : Request) : Bool := buttonPath.toList.reverse.isPrefixOf r.url.toList.reverse

/-- The answer to a press where the script has none. -/
def pressAnswer : Answer := .response 200 "OK".toUTF8.toList true

/-- The answer to any other request where the script has none. -/
def missingAnswer : Answer := .response 404 [] true

/-- Plays the next answer. -/
def answer (r : Request) (s : Script) : Answer × Script :=
  if !s.reachable then (.none, s)
  else
    let s := { s with requests := s.requests ++ [r] }
    if isPress r then
      (s.buttonAnswers.headD pressAnswer, { s with buttonAnswers := s.buttonAnswers.tail })
    else (s.dataAnswers.headD missingAnswer, { s with dataAnswers := s.dataAnswers.tail })

/-- The line to a scripted appliance. -/
def line (base : String) : Line Script := ⟨base, answer⟩

end Script

end HumidifierBridge
