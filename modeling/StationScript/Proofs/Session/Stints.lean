import StationScript.Proofs.Session.Lifecycle
import StationScript.Proofs.Host.Moves

/-!
The runs that loading, calling and giving up come to, one after the other. What a session does to
its host is what these runs do; hosts that play runs alike are served alike.
-/

set_option autoImplicit false

namespace StationScript

/-- The calls of a run, without its result. -/
def Run.effects {α : Type} (run : Run α) : Run Unit := run.bind fun _ => .done ()

namespace Host

variable {α : Type} (id : DeviceId) (run : Run α)

theorem play_effects (host : Host) (closing : Bool) :
    host.play id run.effects closing =
      ((host.play id run closing).1, (host.play id run closing).2.1, ()) := by
  induction run generalizing host closing with
  | done result => rfl
  | call function arguments resume ih => exact ih _ _ _

@[simp] theorem lookups_effects (host : Host) :
    host.lookups id run.effects = host.lookups id run := by
  induction run generalizing host with
  | done result => rfl
  | call function arguments resume ih =>
    exact congrArg ((host.lookup? id function arguments).toList ++ ·) (ih _ _)

@[simp] theorem calls_effects (host : Host) : host.calls id run.effects = host.calls id run := by
  induction run generalizing host with
  | done result => rfl
  | call function arguments resume ih => exact congrArg (function :: ·) (ih _ _)

end Host

/-- What a script is run for. -/
inductive Occasion where
  /-- The top level of its program. -/
  | program
  /-- The call of one of its functions. -/
  | entry (name : String) (arguments : List Value)
  /-- What is left to run when its machine is given up. -/
  | release

def Occasion.isEntry : Occasion → Bool
  | .entry _ _ => true
  | .program | .release => false

/-- A run of a script, and what it is run for. -/
structure Stint where
  occasion : Occasion
  run : Run Unit

def Engine.releaseStint (engine : Engine) (machine : engine.Machine) : Stint :=
  ⟨.release, engine.release machine⟩

namespace Host

/-- The host after some stints of an id's script. -/
def playAll (host : Host) (id : DeviceId) (stints : List Stint) : Host :=
  stints.foldl (fun host stint => (host.play id stint.run false).1) host

section Stints

variable (host : Host) (id : DeviceId) (stints : List Stint)

@[simp] theorem playAll_nil : host.playAll id [] = host := rfl

@[simp] theorem playAll_cons (stint : Stint) :
    host.playAll id (stint :: stints) = (host.play id stint.run false).1.playAll id stints := rfl

theorem playAll_append (front back : List Stint) :
    host.playAll id (front ++ back) = (host.playAll id front).playAll id back :=
  List.foldl_append

/-- Stints without a call do nothing. -/
theorem playAll_of_silent (silent : ∀ stint ∈ stints, stint.run = .done ()) :
    host.playAll id stints = host := by
  induction stints with
  | nil => rfl
  | cons stint rest ih =>
    rw [playAll_cons, silent stint List.mem_cons_self]
    exact ih fun other listed => silent other (List.mem_cons_of_mem _ listed)

/-- Stints change what a script may change of the device that their id leads to. -/
theorem playAll_frame_leads :
    Frame (fun ref => host.leadsTo id = some ref) host (host.playAll id stints) := by
  induction stints generalizing host with
  | nil => exact .refl host
  | cons stint rest ih =>
    have first := host.play_frame_leads id stint.run false
    have later := ih (host.play id stint.run false).1
    rw [first.leadsTo_eq] at later
    exact first.trans later

theorem playAll_calm : Calm host (host.playAll id stints) :=
  (host.playAll_frame_leads id stints).toCalm

/-- Stints of a device's own id are moves for this device. -/
theorem moves_playAll (device : DeviceRef) (called : HostFunction → Prop)
    (calls : ∀ front stint back, stints = front ++ stint :: back →
      ∀ f ∈ (host.playAll (host.device device).id front).calls (host.device device).id stint.run,
        called f) :
    Moves device called host (host.playAll (host.device device).id stints) := by
  induction stints generalizing host with
  | nil => exact .refl
  | cons stint rest ih =>
    have first := (host.moves_play device stint.run false).mono (calls [] stint rest rfl)
    have same : ((host.play (host.device device).id stint.run false).1.device device).id =
        (host.device device).id := first.calm.layout.id_eq device
    have later := ih (host.play (host.device device).id stint.run false).1
    rw [same] at later
    refine Relation.ReflTransGen.trans first (later fun front next back split => ?_)
    exact calls (stint :: front) next back (congrArg _ split)

end Stints

end Host

namespace Session

variable {engine : Engine}

def releaseStints (session : Session engine) : List Stint :=
  session.machine.toList.map engine.releaseStint

/-- The stints of a program: its top level, and what its machine still runs if it is to be
closed. -/
def programStints (id : DeviceId) (host : Host) (run : Run (Except String engine.Machine)) :
    List Stint :=
  ⟨.program, run.effects⟩ ::
    if (host.play id run false).2.1 then
      (host.play id run false).2.2.toOption.toList.map engine.releaseStint
    else []

/-- The stints of the program at a path, if it comes that far. -/
def topStints (session : Session engine) (host : Host) (path : String) : List Stint :=
  match session.loadRun? host path with
  | none => []
  | some run => programStints session.id (session.release host).2 run

def loadStints (session : Session engine) (host : Host) (path : String) : List Stint :=
  session.releaseStints ++ session.topStints host path

def invokeStints (session : Session engine) (host : Host) (entry : String)
    (arguments : List Value) : List Stint :=
  match session.invokeRun? entry arguments with
  | none => []
  | some run => ⟨.entry entry arguments, run.effects⟩ ::
    if (host.play session.id run session.closeRequested).2.1 then
      [engine.releaseStint (host.play session.id run false).2.2.1]
    else []

/-- A machine that is given up changes the host by what it still runs. -/
theorem host_release (session : Session engine) (host : Host) :
    (session.release host).2 = host.playAll session.id session.releaseStints := by
  unfold releaseStints
  cases held : session.machine with
  | none => rw [release_of_none held]; rfl
  | some machine => rw [release_of_some held]; rfl

theorem host_shut (session : Session engine) (host : Host) (machine : Option engine.Machine) :
    (session.shut host machine).2 =
      host.playAll session.id (machine.toList.map engine.releaseStint) :=
  host_release _ host

/-- A program changes the host by its stints. -/
theorem Running.host_eq {id : DeviceId} {host : Host} {run : Run (Except String engine.Machine)}
    {after : Session engine × Host × Except ScriptError Unit}
    (running : Running id host run after) :
    after.2.1 = host.playAll id (programStints id host run) := by
  have flag := host.play_closing_iff id run false
  unfold programStints
  rw [Host.playAll_cons, Host.play_effects]
  cases running with
  | closed vain shut ends =>
    rw [if_pos (flag.mpr (.inr vain)), ends]
    exact host_shut _ _ _
  | ready found =>
    rw [if_neg (by rw [flag]; simpa using found)]
    rfl
  | raised found =>
    rw [if_neg (by rw [flag]; simpa using found)]
    rfl

/-- A load changes the host by its stints. -/
theorem host_load (session : Session engine) (host : Host) (path : String) :
    (session.load host path).2.1 = host.playAll session.id (session.loadStints host path) := by
  have loading := session.load_cases host path
  generalize session.load host path = after at loading
  unfold loadStints topStints
  rw [Host.playAll_append, ← host_release]
  cases loading with
  | unloaded empty => simp [loadRun?, empty]
  | unreadable given fault refused => simp [loadRun?, given, refused]
  | uncompiled given source message read refused =>
    simp [loadRun?, given, read, refused, Except.toOption]
  | ran run started after running =>
    rw [started]
    exact running.host_eq

/-- A call changes the host by its stints. -/
theorem host_invoke (session : Session engine) (host : Host) (entry : String)
    (arguments : List Value) : (session.invoke host entry arguments).2.1 =
      host.playAll session.id (session.invokeStints host entry arguments) := by
  have invoking := session.invoke_cases host entry arguments
  generalize session.invoke host entry arguments = after at invoking
  unfold invokeStints
  cases invoking with
  | idle none =>
    rw [none]
    rfl
  | closed run started asked shut ends =>
    have flag := (host.play_closing_iff session.id run session.closeRequested).mpr asked
    simp only [started, if_pos flag, Host.playAll_cons, Host.play_effects]
    rw [ends]
    exact host_shut _ _ _
  | finished run started unasked found =>
    have flag : ¬ (host.play session.id run session.closeRequested).2.1 = true := by
      rw [host.play_closing_iff, unasked]
      simpa using found
    simp only [started, if_neg flag, Host.playAll_cons, Host.play_effects]
    rfl

/-- A load runs what is left of the machine before it, a top level, and what is left of that. -/
theorem occasion_of_loadStints {session : Session engine} {host : Host} {path : String}
    {stint : Stint} (member : stint ∈ session.loadStints host path) (name : String)
    (arguments : List Value) : stint.occasion ≠ .entry name arguments := by
  unfold loadStints topStints at member
  rcases List.mem_append.mp member with released | program
  · obtain ⟨machine, _, rfl⟩ := List.mem_map.mp released
    exact nofun
  · split at program
    · cases program
    · unfold programStints at program
      rcases List.mem_cons.mp program with rfl | shut
      · exact nofun
      · split at shut
        · obtain ⟨machine, _, rfl⟩ := List.mem_map.mp shut
          exact nofun
        · cases shut

/-- Of the stints of a call the first one, and no other, is the call itself. -/
theorem entry_of_invokeStints {session : Session engine} {host : Host} {entry : String}
    {arguments : List Value} {front : List Stint} {stint : Stint} {back : List Stint}
    (split : session.invokeStints host entry arguments = front ++ stint :: back) {name : String}
    {given : List Value} (call : stint.occasion = .entry name given) :
    name = entry ∧ given = arguments ∧ front = [] ∧ ∃ machine, session.machine = some machine ∧
      stint.run = (engine.invoke machine name given).effects := by
  unfold invokeStints at split
  cases started : session.invokeRun? entry arguments with
  | none =>
    rw [started] at split
    simp at split
  | some run =>
    rw [started] at split
    cases front with
    | nil =>
      obtain ⟨rfl, _⟩ := List.cons.inj split
      cases call
      unfold invokeRun? at started
      split at started
      · obtain ⟨machine, held, rfl⟩ := Option.map_eq_some_iff.mp started
        exact ⟨rfl, rfl, rfl, machine, held, rfl⟩
      · cases started
    | cons first front =>
      have later : stint ∈ (if (host.play session.id run session.closeRequested).2.1 then
          [engine.releaseStint (host.play session.id run false).2.2.1] else []) := by
        rw [(List.cons.inj split).2]
        exact List.mem_append_right _ List.mem_cons_self
      split at later
      · rw [List.mem_singleton.mp later] at call
        cases call
      · cases later

/-- One of the stints looks for the device in vain. -/
def Vain (id : DeviceId) (host : Host) (stints : List Stint) : Prop :=
  ∃ front stint back, stints = front ++ stint :: back ∧
    none ∈ (host.playAll id front).lookups id stint.run

/-- A load closes its session only by a stint in vain. -/
theorem load_vain {session : Session engine} {host : Host} {path : String}
    (closed : (session.load host path).1.state = .closed) :
    Vain session.id host (session.loadStints host path) := by
  refine Classical.byContradiction fun found => ?_
  refine (session.load_cases host path).not_closed (fun run started vain => found ?_) closed
  unfold loadStints topStints
  rw [started]
  refine ⟨session.releaseStints, ⟨.program, run.effects⟩, _, rfl, ?_⟩
  rwa [← host_release, Host.lookups_effects]

/-- So does a call of a settled session. -/
theorem invoke_vain {session : Session engine} (settled : session.Settled) {host : Host}
    {entry : String} {arguments : List Value}
    (closed : (session.invoke host entry arguments).1.state = .closed) :
    session.state = .closed ∨ Vain session.id host (session.invokeStints host entry arguments) := by
  refine Classical.byContradiction fun neither => neither (Or.inl ?_)
  refine (session.invoke_cases host entry arguments).not_closed settled
    (fun run started vain => neither (Or.inr ?_)) closed
  unfold invokeStints
  rw [started]
  refine ⟨[], ⟨.entry entry arguments, run.effects⟩, _, rfl, ?_⟩
  rwa [Host.playAll_nil, Host.lookups_effects]

end Session

/-- Hosts in this relation play every run of an id's script alike, and stay in it. -/
def Host.PlaysAlike (id : DeviceId) (related : Host → Host → Prop) : Prop :=
  ∀ {one other : Host}, related one other → ∀ {α : Type} (run : Run α),
    (other.play id run false).2 = (one.play id run false).2 ∧
      related (one.play id run false).1 (other.play id run false).1

namespace Session

variable {engine : Engine} {related : Host → Host → Prop} {one other : Host}

section Run

variable {id : DeviceId} (alike : Host.PlaysAlike id related) (hosts : related one other)
include alike hosts

/-- The same runs look for the device in vain. -/
theorem vain_congr {α : Type} (run : Run α) :
    none ∈ other.lookups id run ↔ none ∈ one.lookups id run := by
  have flags := congrArg Prod.fst (alike hosts run).1
  rw [Bool.eq_iff_iff, Host.play_closing_iff, Host.play_closing_iff] at flags
  simpa using flags

/-- The flag that a run starts with does not tell the hosts apart either. -/
theorem play_congr {α : Type} (run : Run α) (closing : Bool) :
    (other.play id run closing).2 = (one.play id run closing).2 := by
  have flag : (other.play id run closing).2.1 = (one.play id run closing).2.1 := by
    rw [Bool.eq_iff_iff, Host.play_closing_iff, Host.play_closing_iff, vain_congr alike hosts]
  refine Prod.ext flag ?_
  rw [(other.play_start id run closing).2, (one.play_start id run closing).2, (alike hosts run).1]

/-- A program comes to the same in hosts that play runs alike. -/
theorem programStints_congr (run : Run (Except String engine.Machine)) :
    programStints id other run = programStints id one run := by
  unfold programStints
  rw [(alike hosts run).1]

end Run

section Release

variable (session : Session engine) (alike : Host.PlaysAlike session.id related)
  (hosts : related one other)
include alike hosts

theorem release_congr : (session.release other).1 = (session.release one).1 ∧
    related (session.release one).2 (session.release other).2 := by
  cases held : session.machine with
  | none =>
    rw [release_of_none held, release_of_none held]
    exact ⟨rfl, hosts⟩
  | some machine =>
    rw [release_of_some held, release_of_some held, play_congr alike hosts]
    exact ⟨rfl, (alike hosts _).2⟩

theorem shut_congr (machine : Option engine.Machine) :
    (session.shut other machine).1 = (session.shut one machine).1 ∧
      related (session.shut one machine).2 (session.shut other machine).2 := by
  obtain ⟨same, rest⟩ :=
    release_congr { session with machine, closeRequested := false } alike hosts
  exact ⟨congrArg close same, rest⟩

end Release

theorem Running.congr {id : DeviceId} (alike : Host.PlaysAlike id related)
    (hosts : related one other) {run : Run (Except String engine.Machine)}
    {after again : Session engine × Host × Except ScriptError Unit}
    (left : Running id one run after) (right : Running id other run again) :
    again.1 = after.1 ∧ again.2.2 = after.2.2 ∧ related after.2.1 again.2.1 := by
  obtain ⟨same, played⟩ := alike hosts run
  have flag := vain_congr alike hosts run
  have results := congrArg Prod.snd same
  cases left with
  | closed vain shut ends =>
    cases right with
    | closed _ shut' ends' =>
      rw [results] at ends'
      obtain ⟨sessions, after⟩ := shut_congr (new id : Session engine) alike played
        (one.play id run false).2.2.toOption
      rw [← ends, ← ends'] at sessions after
      exact ⟨sessions, rfl, after⟩
    | ready found => exact absurd (flag.mpr vain) found
    | raised found => exact absurd (flag.mpr vain) found
  | ready found machine result =>
    rw [← results] at result
    cases right with
    | closed vain => exact absurd (flag.mp vain) found
    | ready _ again passed =>
      rw [result] at passed
      cases passed
      exact ⟨rfl, rfl, played⟩
    | raised _ message failed =>
      rw [result] at failed
      cases failed
  | raised found message result =>
    rw [← results] at result
    cases right with
    | closed vain => exact absurd (flag.mp vain) found
    | ready _ machine passed =>
      rw [result] at passed
      cases passed
    | raised _ again failed =>
      rw [result] at failed
      cases failed
      exact ⟨rfl, rfl, played⟩

section Congr

variable (session : Session engine) (alike : Host.PlaysAlike session.id related)
  (hosts : related one other)
include alike hosts

/-- A load of the same text comes to the same. -/
theorem load_congr (path : String)
    (read : path = "" ∨ other.files.readText path = one.files.readText path) :
    (session.load other path).1 = (session.load one path).1 ∧
      (session.load other path).2.2 = (session.load one path).2.2 ∧
      related (session.load one path).2.1 (session.load other path).2.1 ∧
      session.loadStints other path = session.loadStints one path := by
  obtain ⟨same, released⟩ := release_congr session alike hosts
  have started : session.loadRun? other path = session.loadRun? one path := by
    unfold loadRun?
    rcases read with empty | text
    · rw [if_pos empty, if_pos empty]
    · rw [text]
  have stints : session.loadStints other path = session.loadStints one path := by
    unfold loadStints topStints
    rw [started]
    cases session.loadRun? one path with
    | none => rfl
    | some run => exact congrArg _ (programStints_congr alike released run)
  have left := session.load_cases one path
  have right := session.load_cases other path
  generalize session.load one path = after at left
  generalize session.load other path = again at right
  suffices ends : again.1 = after.1 ∧ again.2.2 = after.2.2 ∧ related after.2.1 again.2.1 from
    ⟨ends.1, ends.2.1, ends.2.2, stints⟩
  cases left with
  | unloaded empty =>
    cases right with
    | unloaded =>
      exact ⟨congrArg (fun s : Session engine => { s with state := .unloaded }) same, rfl,
        released⟩
    | unreadable given => exact absurd empty given
    | uncompiled given => exact absurd empty given
    | ran run start => simp [loadRun?, empty] at start
  | unreadable given fault refused =>
    have text := read.resolve_left given
    rw [refused] at text
    cases right with
    | unloaded empty => exact absurd empty given
    | unreadable =>
      exact ⟨congrArg (fun s : Session engine => { s with state := .error }) same, rfl,
        released⟩
    | uncompiled _ source message found => rw [text] at found; cases found
    | ran run start => simp [loadRun?, given, text] at start
  | uncompiled given source message found refused =>
    have text := read.resolve_left given
    rw [found] at text
    cases right with
    | unloaded empty => exact absurd empty given
    | unreadable _ fault missing => rw [text] at missing; cases missing
    | uncompiled _ again _ also compiled =>
      rw [text] at also
      cases also
      rw [refused] at compiled
      cases compiled
      exact ⟨rfl, rfl, released⟩
    | ran run start => simp [loadRun?, given, text, refused, Except.toOption] at start
  | ran run start after running =>
    rw [← started] at start
    cases right with
    | unloaded empty => simp [loadRun?, empty] at start
    | unreadable given fault refused => simp [loadRun?, given, refused] at start
    | uncompiled given source message found refused =>
      simp [loadRun?, given, found, refused, Except.toOption] at start
    | ran again start' _ also =>
      rw [start] at start'
      cases start'
      exact Running.congr alike released running also

/-- A call comes to the same. -/
theorem invoke_congr (entry : String) (arguments : List Value) :
    (session.invoke other entry arguments).1 = (session.invoke one entry arguments).1 ∧
      (session.invoke other entry arguments).2.2 = (session.invoke one entry arguments).2.2 ∧
      related (session.invoke one entry arguments).2.1
        (session.invoke other entry arguments).2.1 ∧
      session.invokeStints other entry arguments = session.invokeStints one entry arguments := by
  have stints : session.invokeStints other entry arguments =
      session.invokeStints one entry arguments := by
    unfold invokeStints
    cases session.invokeRun? entry arguments with
    | none => rfl
    | some run =>
      dsimp only
      rw [play_congr alike hosts, (alike hosts run).1]
  have left := session.invoke_cases one entry arguments
  have right := session.invoke_cases other entry arguments
  generalize session.invoke one entry arguments = after at left
  generalize session.invoke other entry arguments = again at right
  suffices ends : again.1 = after.1 ∧ again.2.2 = after.2.2 ∧ related after.2.1 again.2.1 from
    ⟨ends.1, ends.2.1, ends.2.2, stints⟩
  cases left with
  | idle none =>
    cases right with
    | idle => exact ⟨rfl, rfl, hosts⟩
    | closed run started => rw [none] at started; cases started
    | finished run started => rw [none] at started; cases started
  | closed run started asked shut ends =>
    cases right with
    | idle none => rw [started] at none; cases none
    | closed run' started' _ shut' ends' =>
      rw [started] at started'
      cases started'
      obtain ⟨same, played⟩ := alike hosts run
      rw [same] at ends'
      obtain ⟨sessions, after⟩ := shut_congr (new session.id : Session engine) alike played
        (some (one.play session.id run false).2.2.1)
      rw [← ends, ← ends'] at sessions after
      exact ⟨sessions, rfl, after⟩
    | finished run' started' unasked found =>
      rw [started] at started'
      cases started'
      rcases asked with asked | vain
      · rw [unasked] at asked
        cases asked
      · exact absurd ((vain_congr alike hosts run).mpr vain) found
  | finished run started unasked found =>
    cases right with
    | idle none => rw [started] at none; cases none
    | closed run' started' asked =>
      rw [started] at started'
      cases started'
      rcases asked with asked | vain
      · rw [unasked] at asked
        cases asked
      · exact absurd ((vain_congr alike hosts run).mp vain) found
    | finished run' started' =>
      rw [started] at started'
      cases started'
      obtain ⟨same, played⟩ := alike hosts run
      rw [same]
      exact ⟨rfl, rfl, played⟩

end Congr

end Session

end StationScript
