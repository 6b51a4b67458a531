import StationScript.Proofs.Dispatcher.Confinement

/-!
Refreshes on request. A message asks for a refresh if it holds the marker and is not the host's own,
and the refresh is granted unless another one began within the debounce window. To refresh is to
treat every live device, one after the other, as if its library had been replaced.
-/

set_option autoImplicit false

namespace StationScript

/-- The text is not the host's own, and holds the marker. -/
structure ScriptConfig.Eligible (config : ScriptConfig) (text : String) : Prop where
  foreign : ¬ config.logPrefix.toList <+: text.toList
  marked : config.refreshMarker ≠ ""
  holds : config.refreshMarker.toList <:+: text.toList

/-- A message that appeared in the log, and whether it led to a refresh. -/
structure RefreshRequest where
  now : Nat
  text : String
  granted : Bool

namespace Dispatcher

variable {engine : Engine}

theorem asksForRefresh_iff {d : Dispatcher engine}
    (same : d.host.logPrefix = d.config.logPrefix) (text : String) :
    d.asksForRefresh text = true ↔ d.config.Eligible text := by
  have own : d.host.owns text = true ↔ d.config.logPrefix.toList <+: text.toList := by
    rw [Host.owns, same]
    exact List.isPrefixOf_iff_prefix
  unfold asksForRefresh
  simp only [Bool.and_eq_true, Bool.not_eq_true', decide_eq_true_eq, occursIn_iff,
    ← Bool.not_eq_true, own]
  constructor
  · rintro ⟨⟨foreign, marked⟩, holds⟩
    exact ⟨foreign, marked, holds⟩
  · rintro ⟨foreign, marked, holds⟩
    exact ⟨⟨foreign, marked⟩, holds⟩

/-- What the instant of the last refresh tells about all of them. -/
def Remembers (requests : List RefreshRequest) : Option Nat → Prop
  | none => ∀ request ∈ requests, request.granted = false
  | some last => (∃ request ∈ requests, request.granted = true ∧ request.now = last) ∧
      ∀ request ∈ requests, request.granted = true → request.now ≤ last

/-- The last refresh decides for all: it is the one whose window is open longest. -/
theorem withinWindow_iff {d : Dispatcher engine} {requests : List RefreshRequest}
    (remembers : Remembers requests d.lastRefresh) (now : Nat) : d.withinWindow now = true ↔
      ∃ request ∈ requests, request.granted = true ∧
        now - request.now < d.config.refreshWindow := by
  unfold withinWindow
  cases past : d.lastRefresh with
  | none =>
    rw [past] at remembers
    constructor
    · intro never
      cases never
    · rintro ⟨request, member, granted, _⟩
      rw [remembers request member] at granted
      cases granted
  | some last =>
    rw [past] at remembers
    obtain ⟨⟨latest, listed, granted, rfl⟩, latestOf⟩ := remembers
    rw [decide_eq_true_eq]
    constructor
    · exact fun within => ⟨latest, listed, granted, within⟩
    · rintro ⟨request, member, accepted, within⟩
      have before := latestOf request member accepted
      omega

theorem onLogMessage_granted {d : Dispatcher engine} (now : Nat) (text : String) (order : Listing) :
    (d.onLogMessage now text order).2 = true ↔
      d.asksForRefresh text = true ∧ ¬ d.withinWindow now = true := by
  unfold onLogMessage
  cases d.asksForRefresh text <;> cases d.withinWindow now <;> simp

/-- A message that leads to no refresh leaves nothing behind. -/
theorem onLogMessage_of_refused {d : Dispatcher engine} {now : Nat} {text : String}
    {order : Listing}
    (refused : (d.onLogMessage now text order).2 = false) :
    (d.onLogMessage now text order).1 = d := by
  unfold onLogMessage at refused ⊢
  split
  · rfl
  · rename_i asks
    rw [if_neg asks] at refused
    cases refused

theorem onLogMessage_of_granted {d : Dispatcher engine} {now : Nat} {text : String}
    {order : Listing}
    (granted : (d.onLogMessage now text order).2 = true) : (d.onLogMessage now text order).1 =
      { ({ d with host := d.host.sweep } : Dispatcher engine).broadcast
        (d.host.liveDevices order).2 with
        lastRefresh := some now } := by
  unfold onLogMessage at granted ⊢
  split
  · rename_i refused
    rw [if_pos refused] at granted
    cases granted
  · rfl

/-- The dispatcher once everything stale is evicted. -/
def swept (d : Dispatcher engine) : Dispatcher engine := { d with host := d.host.sweep }

theorem swept_handling (d : Dispatcher engine) : Handling d d.swept :=
  ⟨d.host.calm_sweep, rfl, fun sound => sound.of_sessions_eq rfl⟩

theorem loggedExecutions_of_granted {d : Dispatcher engine} {now : Nat} {text : String}
    {order : Listing}
    (granted : (d.onLogMessage now text order).2 = true) :
    d.executions (.logged now text order) =
      d.swept.broadcastExecutions (d.host.liveDevices order).2 := by
  obtain ⟨asks, open_⟩ := (onLogMessage_granted now text order).mp granted
  unfold executions loggedExecutions
  simp only [asks, Bool.eq_false_iff.mpr open_]
  rfl

theorem loggedExecutions_of_refused {d : Dispatcher engine} {now : Nat} {text : String}
    {order : Listing}
    (refused : (d.onLogMessage now text order).2 = false) :
    d.executions (.logged now text order) = [] := by
  change d.loggedExecutions now text order = []
  unfold onLogMessage at refused
  unfold loggedExecutions
  split
  · rfl
  · rename_i asks
    rw [if_neg asks] at refused
    cases refused

/-- Replaces the library of one device and says that it was updated. -/
def updateComponent (d : Dispatcher engine) (device : DeviceRef) : Dispatcher engine :=
  (d.onLibraryReplaced device).modifyHost fun host =>
    host.info ("Updating component " ++ host.nameOf device)

/-- As long as only live devices are registered, to register them again does nothing, so that a
broadcast replaces their libraries. -/
theorem broadcast_eq {d : Dispatcher engine} (live : d.host.liveRegistry = d.host.registry)
    (keyed : d.host.Keyed) (devices : List DeviceRef)
    (registered : ∀ device ∈ devices,
      d.host.registry.get? (d.host.device device).id = some device) :
    d.broadcast devices = devices.foldl updateComponent d := by
  unfold broadcast
  -- a refresh is calm, so that the registry is the same when the next device has its turn
  induction devices generalizing d with
  | nil => rfl
  | cons device rest ih =>
    have same : d.register device = d := by
      have kept := Host.register_of_found live keyed (registered device List.mem_cons_self)
      exact congrArg (fun host => { d with host }) kept
    have step : d.updateComponent device = d.refreshLogged device := by
      unfold updateComponent onLibraryReplaced refreshLogged
      rw [same]
    have calm := (d.refreshLogged_handling device).calm
    have registry : (d.refreshLogged device).host.registry = d.host.registry := by
      rcases calm.registry with kept | swept
      · exact kept
      · exact swept.trans live
    rw [List.foldl_cons, List.foldl_cons, step]
    refine ih ?_ (keyed.calm calm) fun other later => ?_
    · rw [calm.liveRegistry_eq, live, registry]
    · have id : ((d.refreshLogged device).host.device other).id = (d.host.device other).id :=
        calm.layout.id_eq other
      rw [registry, id]
      exact registered other (List.mem_cons_of_mem _ later)

theorem broadcast_live {d : Dispatcher engine} (keyed : d.host.Keyed) {devices : List DeviceRef}
    {order : Listing} (within : devices ⊆ (d.host.liveDevices order).2) :
    ({ d with host := d.host.sweep } : Dispatcher engine).broadcast devices =
      devices.foldl updateComponent { d with host := d.host.sweep } := by
  have live : d.swept.host.liveRegistry = d.swept.host.registry := d.host.live_sweep
  refine broadcast_eq live (keyed.calm d.host.calm_sweep) devices ?_
  intro device listed
  have id : (d.swept.host.device device).id = (d.host.device device).id :=
    d.host.calm_sweep.layout.id_eq device
  rw [id]
  exact (Host.mem_liveDevices keyed order _ device).mp ⟨within listed, rfl⟩

/-- Requests for a refresh in the order of their instants, between other events and whatever happens
outside. -/
inductive RequestHistory : List RefreshRequest → Dispatcher engine → Prop where
  | new (host : Host) (config : ScriptConfig) (chooser : Chooser) :
    RequestHistory [] { Dispatcher.new host config with chooser }
  | outside (requests : List RefreshRequest) (d : Dispatcher engine)
    (before : RequestHistory requests d) (host : Host) (change : d.host.Outside host) :
    RequestHistory requests { d with host }
  | event (requests : List RefreshRequest) (d : Dispatcher engine)
    (before : RequestHistory requests d) (e : Event)
    (known : ∀ device, e.device? = some device → d.host.plant.Has device)
    (other : ∀ now text order, e ≠ .logged now text order) : RequestHistory requests (d.handle e)
  | logged (requests : List RefreshRequest) (d : Dispatcher engine)
    (before : RequestHistory requests d) (now : Nat) (text : String) (order : Listing)
    (later : ∀ request ∈ requests, request.now ≤ now) :
    RequestHistory (requests ++ [⟨now, text, (d.onLogMessage now text order).2⟩])
      (d.onLogMessage now text order).1

/-- No other event touches the instant of the last refresh. -/
theorem lastRefresh_handle (d : Dispatcher engine) {e : Event}
    (other : ∀ now text order, e ≠ .logged now text order) :
    (d.handle e).lastRefresh = d.lastRefresh := by
  cases about : e.device? with
  | some device =>
    have prepared : (d.prepare e).lastRefresh = d.lastRefresh := by
      cases e <;> rfl
    exact (d.handle_serving about).lastRefresh.trans prepared
  | none =>
    cases e with
    | logged now text order => exact absurd rfl (other now text order)
    | tornDown id =>
      change ((d.releaseMachine id).forget id).lastRefresh = d.lastRefresh
      rw [releaseMachine_rest]
      rfl
    | _ => cases about

/-- One more request is remembered if it was granted. -/
theorem Remembers.logged {requests : List RefreshRequest} {d : Dispatcher engine}
    (remembers : Remembers requests d.lastRefresh) {now : Nat} (text : String) (order : Listing)
    (later : ∀ request ∈ requests, request.now ≤ now) :
    Remembers (requests ++ [⟨now, text, (d.onLogMessage now text order).2⟩])
      (d.onLogMessage now text order).1.lastRefresh := by
  cases granted : (d.onLogMessage now text order).2 with
  | false =>
    rw [onLogMessage_of_refused granted]
    cases past : d.lastRefresh with
    | none =>
      rw [past] at remembers
      intro request member
      rcases List.mem_append.mp member with early | last
      · exact remembers request early
      · rw [List.mem_singleton.mp last]
    | some last =>
      rw [past] at remembers
      obtain ⟨⟨latest, listed, accepted⟩, latestOf⟩ := remembers
      refine ⟨⟨latest, List.mem_append_left _ listed, accepted⟩, fun request member granted => ?_⟩
      rcases List.mem_append.mp member with early | last
      · exact latestOf request early granted
      · rw [List.mem_singleton.mp last] at granted
        cases granted
  | true =>
    rw [onLogMessage_of_granted granted]
    refine ⟨⟨_, List.mem_append_right _ (List.mem_singleton.mpr rfl), rfl, rfl⟩, ?_⟩
    intro request member _
    rcases List.mem_append.mp member with early | last
    · exact later request early
    · exact Nat.le_of_eq (congrArg RefreshRequest.now (List.mem_singleton.mp last))

namespace RequestHistory

variable {requests : List RefreshRequest} {d : Dispatcher engine}

theorem reachable (history : RequestHistory requests d) : d.Reachable := by
  induction history with
  | new host config chooser => exact .new host config chooser
  | outside requests d before host change ih => exact .outside d ih host change
  | event requests d before e known other ih => exact .event d ih e known
  | logged requests d before now text order later ih =>
    exact .event d ih (.logged now text order) fun device about => by cases about

theorem remembers (history : RequestHistory requests d) : Remembers requests d.lastRefresh := by
  induction history with
  | new host config chooser => exact fun _ member => absurd member List.not_mem_nil
  | outside requests d before host change ih => exact ih
  | event requests d before e known other ih =>
    rw [d.lastRefresh_handle other]
    exact ih
  | logged requests d before now text order later ih => exact ih.logged text order later

/-- The next request is granted if it asks for a refresh outside all windows. -/
theorem granted_iff (history : RequestHistory requests d) (now : Nat) (text : String)
    (order : Listing) :
    (d.onLogMessage now text order).2 = true ↔ d.config.Eligible text ∧
      ∀ earlier ∈ requests, earlier.granted = true →
        ¬ now - earlier.now < d.config.refreshWindow := by
  rw [onLogMessage_granted, asksForRefresh_iff history.reachable.logPrefix,
    withinWindow_iff history.remembers]
  simp only [not_exists, not_and]

/-- Every request was granted or not by what was granted before it. -/
theorem granted_iff_of_split (history : RequestHistory requests d)
    {front back : List RefreshRequest} {request : RefreshRequest}
    (split : requests = front ++ request :: back) :
    request.granted = true ↔ d.config.Eligible request.text ∧
      ∀ earlier ∈ front, earlier.granted = true →
        ¬ request.now - earlier.now < d.config.refreshWindow := by
  induction history generalizing back with
  | new host config chooser => simp at split
  | outside requests d before host change ih => exact ih split
  | event requests d before e known other ih =>
    rw [(d.handle_advance e).config]
    exact ih split
  | logged requests d before now text order later ih =>
    have config : (d.onLogMessage now text order).1.config = d.config :=
      (d.handle_advance (.logged now text order)).config
    rw [config]
    rcases List.eq_nil_or_concat back with rfl | ⟨early, last, rfl⟩
    · obtain ⟨rfl, equal⟩ := List.append_inj' split rfl
      cases equal
      exact before.granted_iff now text order
    · rw [List.concat_eq_append, ← List.cons_append, ← List.append_assoc] at split
      exact ih (List.append_inj' split rfl).1

/-- Granted requests are a window apart. -/
theorem apart (history : RequestHistory requests d) :
    (requests.filter RefreshRequest.granted).Pairwise fun early late =>
      early.now + d.config.refreshWindow ≤ late.now := by
  induction history with
  | new host config chooser => exact List.Pairwise.nil
  | outside requests d before host change ih => exact ih
  | event requests d before e known other ih =>
    rw [(d.handle_advance e).config]
    exact ih
  | logged requests d before now text order later ih =>
    have config : (d.onLogMessage now text order).1.config = d.config :=
      (d.handle_advance (.logged now text order)).config
    rw [config, List.filter_append, List.pairwise_append]
    refine ⟨ih, (List.pairwise_singleton _ _).filter _, fun early listed late last => ?_⟩
    obtain ⟨member, granted⟩ := List.mem_filter.mp listed
    obtain ⟨only, accepted⟩ := List.mem_filter.mp last
    rw [List.mem_singleton.mp only] at accepted ⊢
    have outside := ((before.granted_iff now text order).mp accepted).2 early member granted
    have order := later early member
    dsimp only
    omega

end RequestHistory

/-- Requests for a refresh are rationed: one is granted if it asks for a refresh and no other was
granted within the window before it. A refresh sweeps the registry and replaces the library of every
live device once, in whatever order they are listed; what is not granted changes nothing. -/
theorem refreshes_rationed (requests : List RefreshRequest) (d : Dispatcher engine)
    (history : RequestHistory requests d) :
    (∀ (front back : List RefreshRequest) (request : RefreshRequest),
      requests = front ++ request :: back →
        (request.granted = true ↔ d.config.Eligible request.text ∧
          ∀ earlier ∈ front, earlier.granted = true →
            ¬ request.now - earlier.now < d.config.refreshWindow) ∧
        (d.config.Eligible request.text →
          (∀ earlier ∈ front, ¬ d.config.Eligible earlier.text) → request.granted = true)) ∧
    ((requests.filter RefreshRequest.granted).Pairwise fun early late =>
      early.now + d.config.refreshWindow ≤ late.now) ∧
    ∀ (now : Nat) (text : String) (order : Listing),
      ((d.onLogMessage now text order).2 = true ↔ d.config.Eligible text ∧
        ∀ earlier ∈ requests, earlier.granted = true →
          ¬ now - earlier.now < d.config.refreshWindow) ∧
      ((d.onLogMessage now text order).2 = false → (d.onLogMessage now text order).1 = d) ∧
      ((d.onLogMessage now text order).2 = true →
        (d.host.liveDevices order).2.Nodup ∧
        (∀ device, device ∈ (d.host.liveDevices order).2 ↔
          (∃ id, d.host.registry.get? id = some device) ∧ d.host.plant.tracked device = true) ∧
        (d.onLogMessage now text order).1 =
          { (d.host.liveDevices order).2.foldl updateComponent { d with host := d.host.sweep } with
            lastRefresh := some now } ∧
        ∀ devices : List DeviceRef, devices.Perm (d.host.liveDevices order).2 →
          ({ d with host := d.host.sweep } : Dispatcher engine).broadcast devices =
            devices.foldl updateComponent { d with host := d.host.sweep }) := by
  refine ⟨fun front back request split => ?_, history.apart, fun now text order => ?_⟩
  · have granted := history.granted_iff_of_split split
    refine ⟨granted, fun eligible first => granted.mpr ⟨eligible, ?_⟩⟩
    intro earlier member accepted
    obtain ⟨before, between, whole⟩ := List.append_of_mem member
    have whole : requests = before ++ earlier :: (between ++ request :: back) := by
      rw [split, whole]
      simp
    exact absurd ((history.granted_iff_of_split whole).mp accepted).1 (first earlier member)
  · refine ⟨history.granted_iff now text order, onLogMessage_of_refused, fun granted => ?_⟩
    have keyed := history.reachable.keyed
    have swept := keyed.calm d.host.calm_sweep
    refine ⟨(order.perm _).nodup_iff.mpr swept.devices_distinct,
      Host.mem_liveDevices_iff keyed order, ?_, fun devices perm => ?_⟩
    · rw [onLogMessage_of_granted granted, broadcast_live keyed (List.Subset.refl _)]
    · exact broadcast_live keyed perm.subset

/-- The device of the cell is registered. -/
def attachedCell : Dispatcher (.repeating (.call .clearSignals [] fun _ => .done ())) :=
  cell.handle (.attached ⟨0⟩)

/-- A refresh was granted at the first instant. -/
def refreshedCell : Dispatcher (.repeating (.call .clearSignals [] fun _ => .done ())) :=
  (attachedCell.onLogMessage 0 "Update LuaScript").1

/-- The first request of the cell is granted and replaces the library of its device. Another one is
refused until a second has passed. -/
theorem refreshes_rationed_cell :
    (attachedCell.onLogMessage 0 "Update LuaScript").2 = true ∧
    refreshedCell =
      { ({ attachedCell with host := attachedCell.host.sweep } :
          Dispatcher _).updateComponent ⟨0⟩ with lastRefresh := some 0 } ∧
    (refreshedCell.onLogMessage 999999999 "Update LuaScript").1 = refreshedCell ∧
    (refreshedCell.onLogMessage 1000000000 "Please: Update LuaScript").2 = true := by
  have attached : RequestHistory [] attachedCell := by
    refine .event [] cell (.new Host.cell {} .none) (.attached ⟨0⟩) ?_
      fun _ _ _ same => by cases same
    intro device about
    cases about
    decide
  have eligible (text : String) (foreign : ¬ "LuaScript".toList <+: text.toList)
      (holds : occursIn "Update LuaScript".toList text.toList = true) :
      ({} : ScriptConfig).Eligible text := ⟨foreign, by decide, (occursIn_iff _ _).mp holds⟩
  obtain ⟨_, _, first⟩ := refreshes_rationed [] attachedCell attached
  obtain ⟨grants, _, effect⟩ := first 0 "Update LuaScript" .registered
  have granted := grants.mpr ⟨eligible _ (by decide) (by decide), fun _ member => by cases member⟩
  have refreshed : RequestHistory [⟨0, "Update LuaScript", true⟩] refreshedCell := by
    have logged := attached.logged _ _ 0 "Update LuaScript" .registered
      fun _ member => by cases member
    rw [granted] at logged
    exact logged
  obtain ⟨_, _, later⟩ := refreshes_rationed _ refreshedCell refreshed
  have config : refreshedCell.config = {} :=
    (attachedCell.handle_advance (.logged 0 "Update LuaScript" .registered)).config
  obtain ⟨early, refused, _⟩ := later 999999999 "Update LuaScript" .registered
  obtain ⟨late, _⟩ := later 1000000000 "Please: Update LuaScript" .registered
  rw [config] at early late
  refine ⟨granted, ?_, refused ?_, late.mpr ⟨?_, ?_⟩⟩
  · have live : attachedCell.host.liveDevices.2 = [⟨0⟩] := by decide +kernel
    have whole := (effect granted).2.2.1
    rw [live] at whole
    exact whole
  · refine Bool.eq_false_iff.mpr fun again => ?_
    exact (early.mp again).2 _ List.mem_cons_self rfl (by decide +kernel)
  · exact eligible "Please: Update LuaScript" (by decide) (by decide)
  · intro request member _
    rw [List.mem_singleton.mp member]
    decide +kernel

end Dispatcher

end StationScript
