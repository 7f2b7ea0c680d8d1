import EventDispatch.Proofs.Handler.Admission
import EventDispatch.Proofs.Service.StableProperties
import EventDispatch.Service.Router
/-!
Sessions with a router.

Purpose: a router is called, again and again and in any order. Between the calls its loops and jobs
move on, and events that were begun before are looked at or given up. A session is a router after
such acts, with the events under way. In each stage of its life a router has an exchange of one
kind: before the start nobody listens and nothing is there to move, then one server listens, and
after the shutdown nobody listens for good. One act leads from such a state to such a state.

Main exports: `Router.Call`, `Router.call`, `Session`, `Session.Act`, `Session.of`, `Router.Stage`,
`Session.registered`, `Router.Lives`, `Session.stage_next`, `Session.lives_next`.
-/

namespace EventDispatch

namespace Router

/-- What a router is asked for. -/
inductive Call where
  | register (pattern : Pattern) (handler : Handler) (kind : HandlerKind) (extras : Extras)
  | registerGroup (group : Group)
  | start
  | shutdown
  | isRunning
  | process (fresh : Nat → String) (context : Context) (event : Json)

/-- What a router answers. -/
inductive Answer where
  | registered (result : Except RouterError Unit)
  | groupRegistered (result : Except RouterError Nat)
  | started (result : Except RouterError Unit)
  | shutDown
  | running (answer : Bool)
  | processed (result : Option (Except DispatchError Acknowledgement))

/-- The registrations that a call asks for, in order. -/
def Call.registrations? : Call → Option (List Registration)
  | .register pattern handler kind extras => some [.make pattern handler kind extras]
  | .registerGroup group => some group.registrations
  | _ => none

/-- Registrations with those that a call asks for, as far as they are admitted. -/
def Call.admitted (rs : List Registration) (c : Call) : List Registration :=
  match c.registrations? with
  | some more => (Registry.extend rs more).1
  | none => rs

/-- The error with which a call is refused. -/
def Answer.refusal? : Answer → Option RouterError
  | .registered (.error e) => some e
  | .groupRegistered (.error e) => some e
  | .started (.error e) => some e
  | _ => none

/-- Asks a router. -/
def call (r : Router) : Call → Router × Answer
  | .register pattern handler kind extras =>
    let (r, result) := r.register pattern handler kind extras
    (r, .registered result)
  | .registerGroup group =>
    let (r, result) := r.registerGroup group
    (r, .groupRegistered result)
  | .start =>
    let (r, result) := r.start
    (r, .started result)
  | .shutdown => (r.shutdown, .shutDown)
  | .isRunning => (r, .running r.isRunning)
  | .process fresh context event =>
    let (r, result) := r.process fresh context event
    (r, .processed result)

/-- The stages in a router's life. -/
inductive Stage where
  | building
  | running
  | stopped
deriving DecidableEq, Repr, Inhabited

def stage (r : Router) : Stage :=
  match r.phase with
  | .building _ => .building
  | .running _ => .running
  | .stopped => .stopped

end Router

/-- A router, with the events under way. -/
structure Session where
  router : Router := {}
  events : List Dispatch := []
deriving Inhabited

namespace Session

/-- What can happen in a session. -/
inductive Act where
  | call (call : Router.Call)
  /-- An event is begun; its requests are still to be sent. -/
  | begin (fresh : Nat → String) (context : Context) (event : Json)
  /-- A request of an event under way is looked at. -/
  | look (event : Nat) (request : Nat)
  /-- An event under way is given up. -/
  | giveUp (event : Nat)
  /-- A loop or a job moves on. -/
  | move (move : Move)

/-- What follows an act; moves that are not possible are passed over. -/
def next (s : Session) : Act → Session
  | .call c => { s with router := (s.router.call c).1 }
  | .begin fresh context event =>
    match s.router.settings.dispatch fresh context event with
    | .ok d => { s with events := s.events ++ [d] }
    | .error _ => s
  | .look n i =>
    match s.events[n]? with
    | none => s
    | some d =>
      let (exchange, pursuits) := Exchange.turn (s.router.exchange, d.pursuits) (.look i)
      { router := { s.router with exchange }, events := s.events.set n { d with pursuits } }
  | .giveUp n =>
    match s.events[n]? with
    | none => s
    | some d =>
      { router := { s.router with exchange := s.router.exchange.abandonAll d.pursuits }
        events := s.events.eraseIdx n }
  | .move m =>
    let exchange := (s.router.exchange.move m).getD s.router.exchange
    { s with router := { s.router with exchange } }

/-- The session after acts in order, from a new router. -/
def of (settings : MapperSettings) (acts : List Act) : Session :=
  acts.foldl next { router := { settings } }

def stage (s : Session) : Router.Stage := s.router.stage

/-- Whether an act ends the time in which registrations are taken. -/
def Act.ends : Act → Bool
  | .call .start => true
  | .call .shutdown => true
  | _ => false

/-- An act that is no call. -/
def Act.Quiet (a : Act) : Prop := ∀ c, a ≠ .call c

/-- Registrations with those that an act asks for, as far as they are admitted. -/
def Act.admitted (rs : List Registration) : Act → List Registration
  | .call c => c.admitted rs
  | _ => rs

/-- The registrations that acts make: those admitted before the first start or shutdown. -/
def registered (acts : List Act) : List Registration :=
  (acts.takeWhile (!·.ends)).foldl Act.admitted []

/-- The stage that follows a stage by an act. -/
def stageAfter : Router.Stage → Act → Router.Stage
  | _, .call .shutdown => .stopped
  | .building, .call .start => .running
  | stage, _ => stage

end Session

/-! ### The exchange in each stage -/

namespace Exchange

variable {x : Exchange} {g : Registry} {c : Nat}

/-- A server is added to an idle exchange and listens. -/
theorem Idle.start (idle : x.Idle) (g : Registry) :
    x.servers.length = 0 ∧
      Owned ((x.addServer g).1.listen 0) g ∧
      Serving ((x.addServer g).1.listen 0) g x.bus.requests.length := by
  have listening : (x.addServer g).1.listen 0 =
      ⟨x.bus.attach.1, [{ registry := g, loop := some { channel := x.bus.requests.length } }],
        x.jobs⟩ := by
    simp [addServer, idle.servers, listen, Bus.attach]
  rw [listening]
  refine ⟨by rw [idle.servers]; rfl, ⟨?_, ?_⟩, rfl, rfl, ?_⟩
  · intro server member
    rw [List.mem_singleton.mp member]
  · intro job member
    rw [idle.jobs] at member
    cases member
  · simp [Bus.attach, Channels.attended_append_new]

theorem Idle.owned (idle : x.Idle) (g : Registry) : x.Owned g := by
  constructor
  · simp [idle.servers]
  · simp [idle.jobs]

/-- Closing a server leaves its registry. -/
theorem Owned.closeServer (owned : x.Owned g) (n : Nat) : (x.closeServer n).Owned g := by
  unfold Exchange.closeServer
  cases entry : x.servers[n]? with
  | none => exact owned
  | some server =>
      have replaced : ∀ changed : Server, changed.registry = server.registry →
          ∀ other ∈ x.servers.set n changed, other.registry = g := by
        intro changed same other member
        rcases List.mem_or_eq_of_mem_set member with before | rfl
        · exact owned.servers other before
        · exact same.trans (owned.servers server (List.mem_of_getElem? entry))
      dsimp only
      split
      · exact ⟨replaced _ rfl, owned.jobs⟩
      · exact ⟨replaced _ rfl, owned.jobs⟩

/-- Nobody listens once a server was closed. -/
theorem deaf_closeServer {n : Nat} (inRange : n < x.servers.length) :
    (x.closeServer n).Deaf := by
  unfold closeServer
  rw [List.getElem?_eq_getElem inRange]
  dsimp only
  split
  · split
    · rfl
    · rfl
  · rfl

end Exchange

namespace Router

variable {r : Router} {rs : List Registration}

/-- A router at some point of its life, with the registrations that it took. -/
inductive Lives (r : Router) (rs : List Registration) : Prop where
  | building {g : Registry} (phase : r.phase = .building g) (holds : g.Holds rs)
      (idle : r.exchange.Idle)
  | running {g : Registry} {c : Nat} (phase : r.phase = .running 0) (holds : g.Holds rs)
      (owned : r.exchange.Owned g) (serving : r.exchange.Serving g c)
  | stopped {g : Registry} (phase : r.phase = .stopped) (holds : g.Holds rs)
      (owned : r.exchange.Owned g) (deaf : r.exchange.Deaf)

namespace Lives

/-- What is stable in the exchange lives on. -/
theorem of_stable (lives : r.Lives rs) {x : Exchange}
    (stays : ∀ {P : Exchange → Prop}, Exchange.Stable P → P r.exchange → P x) :
    Lives { r with exchange := x } rs := by
  cases lives with
  | building phase holds idle => exact .building phase holds (stays Exchange.stable_idle idle)
  | running phase holds owned serving =>
      exact .running phase holds (stays Exchange.stable_owned owned)
        (stays Exchange.stable_serving serving)
  | stopped phase holds owned deaf =>
      exact .stopped phase holds (stays Exchange.stable_owned owned)
        (stays Exchange.stable_deaf deaf)

/-- A router that is built has a registry with its registrations. -/
theorem of_building (lives : r.Lives rs) (stage : r.stage = .building) :
    ∃ g, r.phase = .building g ∧ g.Holds rs := by
  cases lives with
  | building phase holds _ => exact ⟨_, phase, holds⟩
  | running phase => simp [Router.stage, phase] at stage
  | stopped phase => simp [Router.stage, phase] at stage

/-- A router that runs has a server with its registrations. -/
theorem of_running (lives : r.Lives rs) (stage : r.stage = .running) :
    ∃ g c, r.phase = .running 0 ∧ g.Holds rs ∧ r.exchange.Serving g c := by
  cases lives with
  | building phase => simp [Router.stage, phase] at stage
  | running phase holds _ serving => exact ⟨_, _, phase, holds, serving⟩
  | stopped phase => simp [Router.stage, phase] at stage

/-- Nobody listens unless the router runs. -/
theorem deaf (lives : r.Lives rs) (idle : r.stage ≠ .running) : r.exchange.Deaf := by
  cases lives with
  | building _ _ still => exact still.deaf
  | running phase => simp [Router.stage, phase] at idle
  | stopped _ _ _ deaf => exact deaf

/-- Jobs go to handlers among the registrations. -/
theorem holds_of_job (lives : r.Lives rs) {job : Job} (member : job ∈ r.exchange.jobs) :
    job.registry.Holds rs := by
  cases lives with
  | building _ _ idle =>
      rw [idle.jobs] at member
      cases member
  | running _ holds owned _ =>
      rw [owned.jobs job member]
      exact holds
  | stopped _ holds owned _ =>
      rw [owned.jobs job member]
      exact holds

end Lives

theorem phase_of_stopped (stage : r.stage = .stopped) : r.phase = .stopped := by
  cases phase : r.phase with
  | building g => simp [Router.stage, phase] at stage
  | running n => simp [Router.stage, phase] at stage
  | stopped => rfl

theorem isRunning_eq (r : Router) : r.isRunning = decide (r.stage = .running) := by
  unfold isRunning stage
  cases r.phase <;> rfl

/-! ### Calls -/

/-- Registrations are asked for one at a time or by groups. -/
theorem Call.registrations?_cases {c : Call} {more : List Registration}
    (asked : c.registrations? = some more) :
    (∃ pattern handler kind extras, c = .register pattern handler kind extras ∧
      more = [.make pattern handler kind extras]) ∨
    ∃ group, c = .registerGroup group ∧ more = group.registrations := by
  cases c with
  | register pattern handler kind extras =>
      cases asked
      exact Or.inl ⟨pattern, handler, kind, extras, rfl, rfl⟩
  | registerGroup group =>
      cases asked
      exact Or.inr ⟨group, rfl, rfl⟩
  | start => cases asked
  | shutdown => cases asked
  | isRunning => cases asked
  | process fresh context event => cases asked

theorem Call.key_of_registrations {c : Call} {more : List Registration}
    (asked : c.registrations? = some more) : ∀ r ∈ more, r.key = r.pattern.key := by
  intro r member
  rcases Call.registrations?_cases asked with
    ⟨pattern, handler, kind, extras, _, rfl⟩ | ⟨group, _, rfl⟩
  · rw [List.mem_singleton.mp member]
    rfl
  · exact Group.key_of_mem_registrations member

/-- While a router is built, a call for registrations adds them to its registry. -/
theorem call_of_building {g : Registry} (phase : r.phase = .building g) {c : Call}
    {more : List Registration} (asked : c.registrations? = some more) :
    (r.call c).1 = { r with phase := .building (g.addAll more).1 } ∧
      (r.call c).2.refusal? = (g.addAll more).2.map .registry := by
  rcases Call.registrations?_cases asked with
    ⟨pattern, handler, kind, extras, rfl, rfl⟩ | ⟨group, rfl, rfl⟩
  · simp only [call, Router.register, withRegistry, phase, Registry.register, Registry.addAll]
    cases g.add (.make pattern handler kind extras) with
    | ok g' => exact ⟨rfl, rfl⟩
    | error e => exact ⟨rfl, rfl⟩
  · simp only [call, Router.registerGroup, withRegistry, phase, Group.registerInto]
    cases g.addAll group.registrations with
    | mk g' result =>
        cases result with
        | none => exact ⟨rfl, rfl⟩
        | some e => exact ⟨rfl, rfl⟩

/-- The error with which registrations are refused in a stage. -/
def Stage.refusal? : Stage → Option RouterError
  | .building => none
  | .running => some .alreadyStarted
  | .stopped => some .stopped

/-- Later on, a call for registrations is refused and changes nothing. -/
theorem call_of_built {e : RouterError} (built : r.stage.refusal? = some e) {c : Call}
    {more : List Registration} (asked : c.registrations? = some more) :
    (r.call c).1 = r ∧ (r.call c).2.refusal? = some e := by
  have refused : ∀ {α : Type} (change : Registry → Registry × Except RegistryError α),
      r.withRegistry change = (r, .error e) := by
    intro α change
    simp only [stage] at built
    unfold withRegistry
    cases phase : r.phase with
    | building g =>
        rw [phase] at built
        cases built
    | running n =>
        rw [phase] at built
        cases built
        rfl
    | stopped =>
        rw [phase] at built
        cases built
        rfl
  rcases Call.registrations?_cases asked with
    ⟨pattern, handler, kind, extras, rfl, rfl⟩ | ⟨group, rfl, rfl⟩
  · simp [call, Router.register, refused, Answer.refusal?]
  · simp [call, Router.registerGroup, refused, Answer.refusal?]

namespace Lives

theorem start (lives : r.Lives rs) : Lives r.start.1 rs := by
  unfold Router.start
  cases lives with
  | @building g phase holds idle =>
      obtain ⟨first, owned, serving⟩ := idle.start g
      have started : r.exchange.addServer g = ((r.exchange.addServer g).1, 0) :=
        congrArg (Prod.mk _) first
      rw [phase]
      simp only
      rw [started]
      exact .running rfl holds owned serving
  | running phase holds owned serving =>
      rw [phase]
      exact .running phase holds owned serving
  | stopped phase holds owned deaf =>
      rw [phase]
      exact .stopped phase holds owned deaf

theorem shutdown (lives : r.Lives rs) : Lives r.shutdown rs := by
  unfold Router.shutdown
  cases lives with
  | @building g phase holds idle =>
      rw [phase]
      have owned := idle.owned g
      exact .stopped rfl holds ⟨owned.servers, owned.jobs⟩ rfl
  | running phase holds owned serving =>
      rw [phase]
      refine .stopped rfl holds (owned.closeServer 0) (Exchange.deaf_closeServer ?_)
      rw [serving.servers]
      exact Nat.one_pos
  | stopped phase holds owned deaf =>
      rw [phase]
      exact .stopped phase holds owned deaf

/-- A router after a call has the registrations that it had, with those that it was asked for if it
was still built. -/
theorem call (lives : r.Lives rs) (c : Call) :
    Lives (r.call c).1 (if r.stage = .building then c.admitted rs else rs) := by
  unfold Call.admitted
  cases asked : c.registrations? with
  | some more =>
      cases lives with
      | @building g phase holds idle =>
          have stage : r.stage = .building := by rw [Router.stage, phase]
          obtain ⟨held, _⟩ := holds.addAll (Call.key_of_registrations asked)
          rw [if_pos stage, (call_of_building phase asked).1]
          exact .building rfl held idle
      | running phase holds owned serving =>
          have stage : r.stage = .running := by rw [Router.stage, phase]
          have built : r.stage.refusal? = some .alreadyStarted := by rw [stage]; rfl
          rw [if_neg (by simp [stage]), (call_of_built built asked).1]
          exact .running phase holds owned serving
      | stopped phase holds owned deaf =>
          have stage : r.stage = .stopped := by rw [Router.stage, phase]
          have built : r.stage.refusal? = some .stopped := by rw [stage]; rfl
          rw [if_neg (by simp [stage]), (call_of_built built asked).1]
          exact .stopped phase holds owned deaf
  | none =>
      rw [ite_self]
      cases c with
      | register pattern handler kind extras => cases asked
      | registerGroup group => cases asked
      | start => exact lives.start
      | shutdown => exact lives.shutdown
      | isRunning => exact lives
      | process fresh context event =>
          exact lives.of_stable fun stable holds => stable.process holds _ fresh context event

end Lives

theorem stage_start (r : Router) :
    r.start.1.stage = if r.stage = .stopped then .stopped else .running := by
  unfold start stage
  cases phase : r.phase with
  | building g => simp
  | running n => simp [phase]
  | stopped => simp [phase]

theorem stage_shutdown (r : Router) : r.shutdown.stage = .stopped := by
  unfold shutdown stage
  cases phase : r.phase with
  | building g => rfl
  | running n => rfl
  | stopped => rw [phase]

theorem stage_withRegistry {α : Type} (r : Router)
    (change : Registry → Registry × Except RegistryError α) :
    (r.withRegistry change).1.stage = r.stage := by
  unfold withRegistry stage
  cases phase : r.phase with
  | building g => rfl
  | running n => simp [phase]
  | stopped => simp [phase]

theorem settings_call (r : Router) (c : Call) : (r.call c).1.settings = r.settings := by
  have kept : ∀ {α : Type} (change : Registry → Registry × Except RegistryError α),
      (r.withRegistry change).1.settings = r.settings := by
    intro α change
    unfold withRegistry
    cases r.phase <;> rfl
  cases c with
  | register pattern handler kind extras => exact kept _
  | registerGroup group => exact kept _
  | start =>
      simp only [call, Router.start]
      cases r.phase <;> rfl
  | shutdown =>
      simp only [call, Router.shutdown]
      cases r.phase <;> rfl
  | isRunning => rfl
  | process fresh context event => rfl

end Router

namespace Session

variable {s : Session} {rs : List Registration}

/-- An act that is no call leaves all of the router but its exchange, and there it keeps what is
stable. -/
theorem router_next_of_quiet (s : Session) {a : Act} (quiet : a.Quiet) :
    ∃ x, (s.next a).router = { s.router with exchange := x } ∧
      ∀ {P : Exchange → Prop}, Exchange.Stable P → P s.router.exchange → P x := by
  cases a with
  | call c => exact absurd rfl (quiet c)
  | begin fresh context event =>
      refine ⟨s.router.exchange, ?_, fun _ holds => holds⟩
      simp only [next]
      split <;> rfl
  | look n i =>
      simp only [next]
      split
      · exact ⟨_, rfl, fun _ holds => holds⟩
      · exact ⟨_, rfl, fun stable holds => stable.turn holds (.look i)⟩
  | giveUp n =>
      simp only [next]
      split
      · exact ⟨_, rfl, fun _ holds => holds⟩
      · exact ⟨_, rfl, fun stable holds => stable.abandonAll holds _⟩
  | move m => exact ⟨_, rfl, fun stable holds => stable.moved holds m⟩

theorem Act.call_or_quiet (a : Act) : (∃ c, a = .call c) ∨ a.Quiet := by
  rw [Act.Quiet, ← not_exists]
  exact Classical.em _

theorem stageAfter_of_quiet {a : Act} (quiet : a.Quiet) (stage : Router.Stage) :
    stageAfter stage a = stage := by
  unfold stageAfter
  split
  · exact absurd rfl (quiet _)
  · exact absurd rfl (quiet _)
  · rfl

theorem Act.admitted_of_quiet {a : Act} (quiet : a.Quiet) (rs : List Registration) :
    a.admitted rs = rs := by
  unfold Act.admitted
  split
  · exact absurd rfl (quiet _)
  · rfl

/-- Every act leads to the stage that follows. -/
theorem stage_next (s : Session) (a : Act) : (s.next a).stage = stageAfter s.stage a := by
  unfold stage
  rcases a.call_or_quiet with ⟨c, rfl⟩ | quiet
  · cases c with
    | register pattern handler kind extras => exact s.router.stage_withRegistry _
    | registerGroup group => exact s.router.stage_withRegistry _
    | start =>
        refine s.router.stage_start.trans ?_
        cases s.router.stage <;> rfl
    | shutdown => exact s.router.stage_shutdown
    | isRunning => rfl
    | process fresh context event => rfl
  · obtain ⟨x, same, _⟩ := s.router_next_of_quiet quiet
    rw [same, stageAfter_of_quiet quiet]
    rfl

theorem settings_next (s : Session) (a : Act) :
    (s.next a).router.settings = s.router.settings := by
  rcases a.call_or_quiet with ⟨c, rfl⟩ | quiet
  · exact s.router.settings_call c
  · obtain ⟨x, same, _⟩ := s.router_next_of_quiet quiet
    rw [same]

/-- A step of a session's life. -/
theorem lives_next (lives : s.router.Lives rs) (a : Act) :
    (s.next a).router.Lives (if s.stage = .building then a.admitted rs else rs) := by
  rcases a.call_or_quiet with ⟨c, rfl⟩ | quiet
  · exact lives.call c
  · obtain ⟨x, same, stays⟩ := s.router_next_of_quiet quiet
    rw [Act.admitted_of_quiet quiet, ite_self, same]
    exact lives.of_stable stays

end Session
end EventDispatch
