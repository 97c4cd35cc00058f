import HumidifierBridge.Bridge.Events
import HumidifierBridge.Proofs.Transcript

/-!
# Whom an event is for

Events of the bus name their addressees by texts. The bridge looks these up in two ways: a ping
looks for the own dSUID that a text writes, and all other requests ask whether it means the
container or the device. Both go by `DsUid.IsNamedBy`, that is by the letters and not by their case.

`Bridge.addressed_by_identity` says for whole events what follows. How a dSUID is spelled makes no
difference, what is for someone else has no effect, and the requests that only the device serves are
served if they name the device by a text that does not name the container.
-/

namespace HumidifierBridge

/-! ### Texts -/

theorem Char.toLower_toLower (c : Char) : c.toLower.toLower = c.toLower := by
  by_cases hupper : c.val ≥ 'A'.val ∧ c.val ≤ 'Z'.val
  · have hlower : c.toLower.val = c.val + ('a'.val - 'A'.val) :=
      congrArg Char.val (dif_pos hupper : c.toLower = ⟨_, _⟩)
    -- The lower case of a letter lies behind all capitals.
    refine dif_neg fun h => ?_
    rw [hlower] at h
    obtain ⟨-, hle⟩ := h
    simp only [ge_iff_le, UInt32.le_iff_toNat_le, UInt32.toNat_add] at hupper hle
    have hA : 'A'.val.toNat = 65 := rfl
    have hZ : 'Z'.val.toNat = 90 := rfl
    have hshift : ('a'.val - 'A'.val).toNat = 32 := rfl
    omega
  · have hsame : c.toLower = c := dif_neg hupper
    rw [hsame, hsame]

theorem String.toList_toLower (s : String) : s.toLower.toList = s.toList.map Char.toLower :=
  String.toList_map

theorem String.toLower_toLower (s : String) : s.toLower.toLower = s.toLower := by
  refine String.toList_injective ?_
  simp only [String.toList_toLower, List.map_map, Function.comp_def, Char.toLower_toLower]

namespace DsUid

/-- The text writes the dSUID, with letters of either case. -/
def IsNamedBy (d : DsUid) (s : String) : Prop := s.toLower = d.text.toLower

theorem matchesText_iff {d : DsUid} {s : String} : d.matchesText s = true ↔ d.IsNamedBy s := by
  rw [matchesText, Ascii.sameFold_iff, IsNamedBy, ← String.toList_inj, String.toList_toLower,
    String.toList_toLower, eq_comm]

@[simp] theorem isNamedBy_toLower {d : DsUid} {s : String} :
    d.IsNamedBy s.toLower ↔ d.IsNamedBy s := by
  rw [IsNamedBy, String.toLower_toLower, IsNamedBy]

end DsUid

namespace Identity

variable (i : Identity)

/-- The text names the container, by its own dSUID or by that of the library. -/
def MeansContainer (s : String) : Prop := i.vdc.IsNamedBy s ∨ i.library.IsNamedBy s

/-- The text names the device, and not the container as well. -/
def MeansDevice (s : String) : Prop := i.device.IsNamedBy s ∧ ¬ i.MeansContainer s

/-- The text is a dSUID of the bridge. -/
def IsOwn (s : String) : Prop := i.MeansContainer s ∨ i.device.IsNamedBy s

variable {i} {s : String}

theorem target_of_meansContainer (h : i.MeansContainer s) : i.target s = some .container := by
  refine if_pos ?_
  simpa only [Bool.or_eq_true, DsUid.matchesText_iff, MeansContainer] using h

theorem target_of_not_meansContainer (h : ¬ i.MeansContainer s) :
    i.target s = if i.device.matchesText s then some .device else none := by
  refine if_neg ?_
  simpa only [Bool.or_eq_true, DsUid.matchesText_iff, MeansContainer] using h

theorem target_eq_device_iff : i.target s = some .device ↔ i.MeansDevice s := by
  by_cases h : i.MeansContainer s
  · simp [target_of_meansContainer h, MeansDevice, h]
  · simp [target_of_not_meansContainer h, MeansDevice, h, DsUid.matchesText_iff]

theorem target_eq_none_iff : i.target s = none ↔ ¬ i.IsOwn s := by
  by_cases h : i.MeansContainer s
  · simp [target_of_meansContainer h, IsOwn, h]
  · simp [target_of_not_meansContainer h, IsOwn, h, DsUid.matchesText_iff]

theorem resolve_eq_none_iff : i.resolve s = none ↔ ¬ i.IsOwn s := by
  simp [resolve, DsUid.matchesText_iff, IsOwn, MeansContainer, and_assoc]

/-- The two ways of looking a text up find it or not together. -/
theorem isSome_resolve_iff (i : Identity) (s : String) :
    (i.resolve s).isSome = true ↔ (i.target s).isSome = true := by
  rw [Option.isSome_iff_ne_none, Option.isSome_iff_ne_none, ne_eq, ne_eq, resolve_eq_none_iff,
    target_eq_none_iff]

@[simp] theorem target_toLower (i : Identity) (s : String) : i.target s.toLower = i.target s := by
  have hmatches : ∀ d : DsUid, d.matchesText s.toLower = d.matchesText s := fun d => by
    rw [Bool.eq_iff_iff, DsUid.matchesText_iff, DsUid.matchesText_iff, DsUid.isNamedBy_toLower]
  simp only [target, hmatches]

@[simp] theorem resolve_toLower (i : Identity) (s : String) :
    i.resolve s.toLower = i.resolve s := by
  have hmatches : ∀ d : DsUid, d.matchesText s.toLower = d.matchesText s := fun d => by
    rw [Bool.eq_iff_iff, DsUid.matchesText_iff, DsUid.matchesText_iff, DsUid.isNamedBy_toLower]
  simp only [resolve, hmatches]

end Identity

/-! ### Events -/

/-- What only the device serves. -/
inductive DeviceRequest where
  | callScene (scene : Int32)
  | saveScene (scene : Int32)
  | generic (params : List PropertyEntry)

namespace BusEvent

/-- The event with its dSUIDs spelled in another way. -/
def respell (spell : String → String) : BusEvent → BusEvent
  | .newSession => .newSession
  | .endSession => .endSession
  | .ping dsuid => .ping (spell dsuid)
  | .getProperty dsuid query => .getProperty (spell dsuid) query
  | .setProperty dsuid entries => .setProperty (spell dsuid) entries
  | .callScene dsuids scene force => .callScene (dsuids.map spell) scene force
  | .saveScene dsuids scene => .saveScene (dsuids.map spell) scene
  | .identify dsuid => .identify (spell dsuid)
  | .remove dsuid => .remove (spell dsuid)
  | .genericRequest dsuid method params => .genericRequest (spell dsuid) method params

/-- The events are the same but for the case of letters in their dSUIDs. -/
def SameUpToCase (event event' : BusEvent) : Prop :=
  event.respell String.toLower = event'.respell String.toLower

/-- The texts that a request is addressed to. To start or end a session is no request, and what asks
to identify or to remove a device is for any. -/
def addressees? : BusEvent → Option (List String)
  | .ping dsuid => some [dsuid]
  | .getProperty dsuid _ => some [dsuid]
  | .setProperty dsuid _ => some [dsuid]
  | .callScene dsuids _ _ => some dsuids
  | .saveScene dsuids _ => some dsuids
  | .genericRequest dsuid _ _ => some [dsuid]
  | _ => none

/-- The addressees and the contents of a request that only the device serves. -/
def deviceRequest? : BusEvent → Option (List String × DeviceRequest)
  | .callScene dsuids scene _ => some (dsuids, .callScene scene)
  | .saveScene dsuids scene => some (dsuids, .saveScene scene)
  | .genericRequest dsuid _ params => some ([dsuid], .generic params)
  | _ => none

/-- The reply to a request for someone else. -/
def refusal : BusEvent → Reply
  | .genericRequest _ _ _ => .code .notFound
  | _ => .none

end BusEvent

namespace Bridge

variable {σ : Type}

/-- Serves a request to the device: scenes are called and saved, and a generic request is
evaluated. -/
def serve (b : Bridge) (line : Line σ) (request : DeviceRequest) (now : Time) (w : World σ) :
    Handled σ :=
  match request with
  | .callScene scene =>
    let (_, state, appliance) := line.invoke w.state scene now w.appliance
    ⟨.none, { w with state, appliance }, []⟩
  | .saveScene scene => ⟨.none, (b.saveAndPersist scene w).2, []⟩
  | .generic params => ⟨.code (genericRequest params), w, []⟩

theorem addressesDevice_iff {b : Bridge} {dsuids : List String} :
    b.addressesDevice dsuids = true ↔ ∃ d ∈ dsuids, b.identity.MeansDevice d := by
  simp [addressesDevice, Identity.target_eq_device_iff]

/-- In lower case an event is handled as it is. -/
theorem handle_toLower (b : Bridge) (line : Line σ) (t : Transport) (event : BusEvent) (now : Time)
    (w : World σ) :
    b.handle line t (event.respell String.toLower) now w = b.handle line t event now w := by
  have hdevice : ∀ dsuids : List String,
      b.addressesDevice (dsuids.map String.toLower) = b.addressesDevice dsuids := fun dsuids => by
    simp only [addressesDevice, List.any_map, Function.comp_def, Identity.target_toLower]
  cases event with
  | newSession => rfl
  | endSession => rfl
  | ping dsuid => simp only [BusEvent.respell, handle, Identity.resolve_toLower]
  | getProperty dsuid query =>
    simp only [BusEvent.respell, handle, getProperties, Identity.target_toLower]
  | setProperty dsuid entries =>
    simp only [BusEvent.respell, handle, setAndPersist, setProperties, Identity.target_toLower]
  | callScene dsuids scene force => simp only [BusEvent.respell, handle, hdevice]
  | saveScene dsuids scene => simp only [BusEvent.respell, handle, hdevice]
  | identify dsuid => rfl
  | remove dsuid => rfl
  | genericRequest dsuid method params =>
    simp only [BusEvent.respell, handle, Identity.target_toLower]

/-- What only the device serves is served if it is for the device. -/
theorem handle_of_meansDevice {b : Bridge} {line : Line σ} {t : Transport} {event : BusEvent}
    {now : Time} {w : World σ} {dsuids : List String} {request : DeviceRequest}
    (hrequest : event.deviceRequest? = some (dsuids, request))
    (h : ∃ d ∈ dsuids, b.identity.MeansDevice d) :
    b.handle line t event now w = b.serve line request now w := by
  cases event with
  | callScene dsuids' scene force =>
    cases hrequest
    exact if_pos (addressesDevice_iff.2 h)
  | saveScene dsuids' scene =>
    cases hrequest
    exact if_pos (addressesDevice_iff.2 h)
  | genericRequest dsuid method params =>
    cases hrequest
    obtain ⟨d, hd, hmeans⟩ := h
    obtain rfl := List.mem_singleton.1 hd
    exact if_pos (Identity.target_eq_device_iff.2 hmeans)
  | _ => cases hrequest

/-- Otherwise it has no effect. -/
theorem handle_of_not_meansDevice {b : Bridge} {line : Line σ} {t : Transport} {event : BusEvent}
    {now : Time} {w : World σ} {dsuids : List String} {request : DeviceRequest}
    (hrequest : event.deviceRequest? = some (dsuids, request))
    (h : ¬ ∃ d ∈ dsuids, b.identity.MeansDevice d) :
    b.handle line t event now w = ⟨event.refusal, w, []⟩ := by
  cases event with
  | callScene dsuids' scene force =>
    cases hrequest
    exact if_neg (h ∘ addressesDevice_iff.1)
  | saveScene dsuids' scene =>
    cases hrequest
    exact if_neg (h ∘ addressesDevice_iff.1)
  | genericRequest dsuid method params =>
    cases hrequest
    refine if_neg fun htarget => h ⟨dsuid, List.mem_singleton_self dsuid, ?_⟩
    exact Identity.target_eq_device_iff.1 htarget
  | _ => cases hrequest

/-- A request for someone else has no effect. -/
theorem handle_of_not_isOwn {b : Bridge} {line : Line σ} {t : Transport} {event : BusEvent}
    {now : Time} {w : World σ} {dsuids : List String}
    (haddressees : event.addressees? = some dsuids) (h : ∀ d ∈ dsuids, ¬ b.identity.IsOwn d) :
    b.handle line t event now w = ⟨event.refusal, w, []⟩ := by
  have hdevice : ¬ ∃ d ∈ dsuids, b.identity.MeansDevice d :=
    fun ⟨d, hd, hmeans⟩ => h d hd (.inr hmeans.1)
  have htarget : ∀ d ∈ dsuids, b.identity.target d = none :=
    fun d hd => Identity.target_eq_none_iff.2 (h d hd)
  cases event with
  | ping dsuid =>
    cases haddressees
    have hresolve : b.identity.resolve dsuid = none :=
      Identity.resolve_eq_none_iff.2 (h dsuid (List.mem_singleton_self dsuid))
    simp only [handle, hresolve, BusEvent.refusal]
  | getProperty dsuid query =>
    cases haddressees
    have hnone := htarget dsuid (List.mem_singleton_self dsuid)
    simp only [handle, getProperties, hnone, Option.map_none, BusEvent.refusal]
  | setProperty dsuid entries =>
    cases haddressees
    have hnone := htarget dsuid (List.mem_singleton_self dsuid)
    simp [handle, setAndPersist, setProperties, hnone, BusEvent.refusal]
  | callScene dsuids' scene force =>
    cases haddressees
    exact handle_of_not_meansDevice rfl hdevice
  | saveScene dsuids' scene =>
    cases haddressees
    exact handle_of_not_meansDevice rfl hdevice
  | genericRequest dsuid method params =>
    cases haddressees
    exact handle_of_not_meansDevice rfl hdevice
  | _ => cases haddressees

/-- Events have their effects on those that they name, whatever the case of the letters. -/
structure AddressedByIdentity (b : Bridge) (line : Line σ) (t : Transport) (now : Time)
    (w : World (σ × List Request)) : Prop where
  /-- The same reply, the same world with the same requests noted, and the same calls. -/
  respelled : ∀ event event' : BusEvent, event.SameUpToCase event' →
    b.handle line.noting t event' now w = b.handle line.noting t event now w
  /-- A request for someone else leaves everything as it is. -/
  unknown : ∀ (event : BusEvent) (dsuids : List String), event.addressees? = some dsuids →
    (∀ d ∈ dsuids, ¬ b.identity.IsOwn d) →
      b.handle line.noting t event now w = ⟨event.refusal, w, []⟩
  resolve_iff : ∀ s, (b.identity.resolve s).isSome = true ↔ (b.identity.target s).isSome = true
  container : ∀ s, b.identity.MeansContainer s → b.identity.target s = some .container
  served : ∀ (event : BusEvent) (dsuids : List String) (request : DeviceRequest),
    event.deviceRequest? = some (dsuids, request) → (∃ d ∈ dsuids, b.identity.MeansDevice d) →
      b.handle line.noting t event now w = b.serve line.noting request now w
  /-- A request that only the device serves, and that does not mean it, does so too. -/
  refused : ∀ (event : BusEvent) (dsuids : List String) (request : DeviceRequest),
    event.deviceRequest? = some (dsuids, request) → (¬ ∃ d ∈ dsuids, b.identity.MeansDevice d) →
      b.handle line.noting t event now w = ⟨event.refusal, w, []⟩

/-- **Events are for those that they name.** -/
theorem addressed_by_identity (b : Bridge) (line : Line σ) (t : Transport) (now : Time)
    (w : World (σ × List Request)) : b.AddressedByIdentity line t now w where
  respelled event event' h := by
    rw [← b.handle_toLower line.noting t event now w, h, b.handle_toLower]
  unknown _ _ haddressees h := handle_of_not_isOwn haddressees h
  resolve_iff := b.identity.isSome_resolve_iff
  container _ h := Identity.target_of_meansContainer h
  served _ _ _ hrequest h := handle_of_meansDevice hrequest h
  refused _ _ _ hrequest h := handle_of_not_meansDevice hrequest h

end Bridge

end HumidifierBridge
