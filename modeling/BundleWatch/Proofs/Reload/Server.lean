import BundleWatch.Proofs.Engine.Turn
import BundleWatch.Proofs.Loop.Run
import BundleWatch.Reload.Connection

/-!
# The live-reload server

Any number of connections, each served by a party of its own, share the channel of the loop with all else that
sends events. A party reads its request, writes in pieces of any length, hears the number that the engine gave
it, empties its mailbox and ends, each at any time. In between the loop takes letters from the channel, a turn
for each, and connections need not wait for the end of a turn. A run of the server carries the letters that were
taken and the acts that were done to the hub.
-/

set_option autoImplicit false

namespace BundleWatch

open Hub

variable {σ : Type}

/-! ## Letters -/

def Notice.event : Notice → Event
  | .connected => .clientConnected true
  | .disconnected client => .clientDisconnected client

def Event.Foreign : Event → Prop
  | .clientConnected _ | .clientDisconnected _ => False
  | _ => True

structure Letter where
  sender : Option Nat
  event : Event
deriving DecidableEq

def sentBy (i : Nat) (letters : List Letter) : List Event :=
  letters.filterMap fun letter => if letter.sender = some i then some letter.event else none

theorem sent_by_append (i : Nat) (letters more : List Letter) :
    sentBy i (letters ++ more) = sentBy i letters ++ sentBy i more :=
  List.filterMap_append

theorem sent_by_cons (i : Nat) (letter : Letter) (letters : List Letter) :
    sentBy i (letter :: letters) =
      (if letter.sender = some i then [letter.event] else []) ++ sentBy i letters := by
  unfold sentBy
  by_cases h : letter.sender = some i <;> simp [h]

theorem sent_by_concat (i : Nat) (letters : List Letter) (letter : Letter) :
    sentBy i (letters ++ [letter]) =
      sentBy i letters ++ if letter.sender = some i then [letter.event] else [] := by
  rw [sent_by_append, sent_by_cons]
  exact congrArg (sentBy i letters ++ ·) (List.append_nil _)

theorem mem_sent_by {i : Nat} {letter : Letter} {letters : List Letter} (hin : letter ∈ letters)
    (hsender : letter.sender = some i) : letter.event ∈ sentBy i letters :=
  List.mem_filterMap.mpr ⟨letter, hin, if_pos hsender⟩

theorem sent_by_none (i : Nat) {letters : List Letter} (h : ∀ letter ∈ letters, letter.sender ≠ some i) :
    sentBy i letters = [] :=
  List.filterMap_eq_nil_iff.mpr fun letter hin => if_neg (h letter hin)

theorem sent_by_one (i j : Nat) (evs : List Event) :
    sentBy j (evs.map fun ev => ⟨some i, ev⟩) = if i = j then evs else [] := by
  induction evs with
  | nil => simp [sentBy]
  | cons ev evs ih =>
    rw [List.map_cons, sent_by_cons, ih]
    by_cases h : i = j <;> simp [h]

/-! ## Parties -/

/-- One connection, the number that the engine answered with, and what was taken out of the mailbox and is not
written yet. -/
structure Party where
  connection : Connection := {}
  client : Option Nat := none
  inbox : List String := []
deriving DecidableEq

inductive Deed
  | request (endpoint : String) (r : Stream.Request)
  | write (n : Nat)
  | hear
  | fetch
  | take
  | finish
  | release

structure Outcome where
  party : Party
  notices : List Notice := []
  acts : List Act := []

namespace Party

def does (p : Party) (hub : Hub) : Deed → Outcome
  | .request endpoint r =>
    let (c, notices) := p.connection.answerRequest endpoint r
    ⟨{ p with connection := c }, notices, []⟩
  | .write n => ⟨{ p with connection := p.connection.write n }, [], []⟩
  | .hear =>
    match p.client with
    | some client => ⟨{ p with connection := p.connection.attached client }, [], []⟩
    | none => ⟨p, [], []⟩
  | .fetch =>
    match p.connection.phase with
    | .streaming client _ =>
      ⟨{ p with inbox := p.inbox ++ (hub.receive client).2.getD [] }, [], [.receive client]⟩
    | _ => ⟨p, [], []⟩
  | .take =>
    match p.connection.phase, p.inbox with
    | .streaming _ [], message :: inbox =>
      ⟨{ p with connection := p.connection.take message, inbox := inbox }, [], []⟩
    | _, _ => ⟨p, [], []⟩
  | .finish =>
    let (c, notices) := p.connection.finish
    ⟨{ p with connection := c }, notices, []⟩
  | .release =>
    match p.connection.phase, p.client with
    | .closed, some client => ⟨p, [], [.hangUp client]⟩
    | _, _ => ⟨p, [], []⟩

/-- While a party waits for its number it ends only if no answer can come. -/
def MayDo (p : Party) (status : LoopStatus) : Deed → Prop
  | .finish => p.connection.phase = .registering → p.client = none ∧ status ≠ .running
  | _ => True

end Party

/-! ## The server -/

structure Server (σ : Type) where
  engine : Engine σ
  channel : List Letter := []
  status : LoopStatus := .running
  parties : List Party := []
  turn : Option Turn := none

namespace Server

def loop (s : Server σ) : Loop σ := ⟨s.engine, s.channel.map (·.event), s.status⟩

def hub (s : Server σ) : Hub := s.engine.world.hub

def ofLoop (l : Loop σ) : Server σ where
  engine := l.engine
  channel := l.channel.map fun ev => ⟨none, ev⟩
  status := l.status

def accept (s : Server σ) : Server σ := { s with parties := s.parties ++ [{}] }

def post (s : Server σ) (ev : Event) : Server σ := { s with channel := s.channel ++ [⟨none, ev⟩] }

def changeFiles (s : Server σ) (files : σ → σ) : Server σ := { s with engine := s.engine.disturb files id }

/-! ## Deeds -/

def settle (s : Server σ) (i : Nat) (o : Outcome) : Server σ :=
  { s with
    engine := s.engine.updateHub fun h => h.performAll o.acts
    channel := s.channel ++ (o.notices.map (·.event)).map fun ev => ⟨some i, ev⟩
    parties := s.parties.set i o.party }

def act (s : Server σ) (i : Nat) (d : Deed) : Server σ :=
  match s.parties[i]? with
  | some p => s.settle i (p.does s.hub d)
  | none => s

def actsOf (s : Server σ) (i : Nat) (d : Deed) : List Act :=
  match s.parties[i]? with
  | some p => (p.does s.hub d).acts
  | none => []

/-! ## Turns -/

def answer (s : Server σ) : Letter → List Party
  | ⟨some i, .clientConnected _⟩ => s.parties.modify i fun p => { p with client := some s.hub.attach.2 }
  | _ => s.parties

def proceed (s : Server σ) : Engine.Result σ Turn → Server σ
  | (e, .ok turn) => { s with engine := e, turn := some turn }
  | (e, .error err) => { s with engine := e, turn := none, status := .failed err }

def receive [FileSystem σ] (s : Server σ) : Server σ :=
  match s.channel with
  | [] => s
  | letter :: rest =>
    { s with channel := rest, parties := s.answer letter }.proceed (s.engine.takeUp letter.event)

def work (s : Server σ) : Server σ :=
  match s.turn with
  | some ⟨t :: ts, keepRunning⟩ =>
    let (e, done) := s.engine.runTasks [t]
    s.proceed (e, done.map fun _ => ⟨ts, keepRunning⟩)
  | _ => s

def conclude (s : Server σ) : Server σ :=
  match s.turn with
  | some ⟨[], keepRunning⟩ =>
    let (e, step) := s.engine.nextStep keepRunning
    let l := Loop.apply ⟨e, [], s.status⟩ step
    { s with
      engine := l.engine
      channel := s.channel ++ l.channel.map fun ev => ⟨none, ev⟩
      status := l.status
      turn := none }
  | _ => s

/-- What may come of a loop and the connections that it serves, with the letters that were taken and all that was
done to the hub. Connections come and do a deed, others send events, and the loop does a part of a turn, in any
order. -/
inductive Serving [FileSystem σ] (l₀ : Loop σ) : Server σ → List Letter → List Act → Prop
  | start : l₀.engine.world.hub = .empty → (∀ ev ∈ l₀.channel, ev.Foreign) →
      Serving l₀ (.ofLoop l₀) [] []
  | accept {s : Server σ} {h : List Letter} {acts : List Act} : Serving l₀ s h acts →
      Serving l₀ s.accept h acts
  | deed {s : Server σ} {h : List Letter} {acts : List Act} (i : Nat) (d : Deed) : Serving l₀ s h acts →
      (∀ p, s.parties[i]? = some p → p.MayDo s.status d) →
      Serving l₀ (s.act i d) h (acts ++ s.actsOf i d)
  | post {s : Server σ} {h : List Letter} {acts : List Act} {ev : Event} : Serving l₀ s h acts →
      ev.Foreign → Serving l₀ (s.post ev) h acts
  | outside {s : Server σ} {h : List Letter} {acts : List Act} (files : σ → σ) : Serving l₀ s h acts →
      Serving l₀ (s.changeFiles files) h acts
  | receive {s : Server σ} {h : List Letter} {acts : List Act} {letter : Letter} {rest : List Letter} :
      Serving l₀ s h acts → s.status = .running → s.turn = none → s.channel = letter :: rest →
      Serving l₀ s.receive (h ++ [letter]) (acts ++ letter.event.acts s.hub)
  | work {s : Server σ} {h : List Letter} {acts : List Act} {t : Task} {ts : List Task}
      {keepRunning : Bool} (messages : List String) : Serving l₀ s h acts →
      s.turn = some ⟨t :: ts, keepRunning⟩ →
      (s.engine.runTasks [t]).1.world.hub = s.hub.performAll (messages.map .notify) →
      Serving l₀ s.work h (acts ++ messages.map .notify)
  | conclude {s : Server σ} {h : List Letter} {acts : List Act} {keepRunning : Bool} :
      Serving l₀ s h acts → s.turn = some ⟨[], keepRunning⟩ → Serving l₀ s.conclude h acts

/-! ## What a part of a turn does -/

section

variable {s : Server σ} {letter : Letter} {rest : List Letter}

@[simp]
theorem proceed_engine (s : Server σ) (r : Engine.Result σ Turn) : (s.proceed r).engine = r.1 := by
  rcases r with ⟨e, err | turn⟩ <;> rfl

@[simp]
theorem proceed_hub (s : Server σ) (r : Engine.Result σ Turn) : (s.proceed r).hub = r.1.world.hub := by
  rw [hub, proceed_engine]

@[simp]
theorem proceed_channel (s : Server σ) (r : Engine.Result σ Turn) : (s.proceed r).channel = s.channel := by
  rcases r with ⟨e, err | turn⟩ <;> rfl

@[simp]
theorem proceed_parties (s : Server σ) (r : Engine.Result σ Turn) : (s.proceed r).parties = s.parties := by
  rcases r with ⟨e, err | turn⟩ <;> rfl

theorem proceed_running {r : Engine.Result σ Turn} (hs : s.status = .running) {turn : Turn}
    (ht : (s.proceed r).turn = some turn) : (s.proceed r).status = .running := by
  rcases r with ⟨e, err | turn'⟩
  · cases ht
  · exact hs

theorem work_eq {t : Task} {ts : List Task} {keepRunning : Bool} (ht : s.turn = some ⟨t :: ts, keepRunning⟩) :
    s.work = s.proceed
      ((s.engine.runTasks [t]).1, (s.engine.runTasks [t]).2.map fun _ => ⟨ts, keepRunning⟩) := by
  rw [work, ht]

theorem conclude_eq {keepRunning : Bool} (hs : s.status = .running)
    (ht : s.turn = some ⟨[], keepRunning⟩) :
    s.conclude =
      { s with
        engine := (Loop.settled s.engine [] keepRunning).engine
        channel := s.channel ++ (Loop.settled s.engine [] keepRunning).channel.map fun ev => ⟨none, ev⟩
        status := (Loop.settled s.engine [] keepRunning).status
        turn := none } := by
  rw [conclude, ht, hs]
  simp only []
  rw [Loop.apply_next_step]

theorem settled_posts (e : Engine σ) (keepRunning : Bool) :
    ∀ ev ∈ (Loop.settled e [] keepRunning).channel, ev = .flush := by
  unfold Loop.settled
  cases e.queue.scheduleRequested <;> simp

variable [FileSystem σ]

theorem receive_eq (hc : s.channel = letter :: rest) :
    s.receive = { s with channel := rest, parties := s.answer letter }.proceed
      (s.engine.takeUp letter.event) := by
  rw [receive, hc]

theorem receive_hub (hc : s.channel = letter :: rest) :
    s.receive.hub = s.hub.performAll (letter.event.acts s.hub) := by
  rw [receive_eq hc, proceed_hub]
  exact s.engine.take_up_hub letter.event

theorem receive_channel (hc : s.channel = letter :: rest) : s.receive.channel = rest := by
  rw [receive_eq hc, proceed_channel]

theorem receive_parties (hc : s.channel = letter :: rest) : s.receive.parties = s.answer letter := by
  rw [receive_eq hc, proceed_parties]

end

/-! ## Turns and the loop -/

variable [FileSystem σ] {l₀ : Loop σ} {s : Server σ} {h : List Letter} {acts : List Act}

omit [FileSystem σ] in
theorem conclude_loop {keepRunning : Bool} (hs : s.status = .running)
    (ht : s.turn = some ⟨[], keepRunning⟩) :
    s.conclude.loop = Loop.settled s.engine (s.channel.map (·.event)) keepRunning := by
  rw [conclude_eq hs ht, loop]
  unfold Loop.settled
  cases s.engine.queue.scheduleRequested <;> simp

theorem Serving.handlers (hserving : Serving l₀ s h acts) : s.engine.handlers = l₀.engine.handlers := by
  induction hserving with
  | start _ _ => rfl
  | accept _ ih => exact ih
  | deed i d _ _ ih =>
    unfold act
    split <;> exact ih
  | post _ _ ih => exact ih
  | outside files _ ih => exact ih
  | receive _ _ _ hc ih =>
    rw [receive_eq hc, proceed_engine, Engine.take_up_handlers]
    exact ih
  | work messages _ ht _ ih =>
    rw [work_eq ht, proceed_engine]
    exact ih
  | @conclude s _ _ keepRunning _ ht ih =>
    have hkept := congrArg Engine.handlers (s.engine.next_step_frame keepRunning)
    rw [Server.conclude, ht]
    exact hkept.trans ih

theorem Serving.runs (hserving : Serving l₀ s h acts) {turn : Turn} (ht : s.turn = some turn) :
    s.status = .running := by
  induction hserving generalizing turn with
  | start _ _ => cases ht
  | accept _ ih => exact ih ht
  | @deed s _ _ i d _ _ ih =>
    unfold act at ht ⊢
    split at ht <;> exact ih ht
  | post _ _ ih => exact ih ht
  | outside files _ ih => exact ih ht
  | receive _ hs _ hc _ =>
    rw [receive_eq hc] at ht ⊢
    exact proceed_running hs ht
  | work messages _ hturn _ ih =>
    rw [work_eq hturn] at ht ⊢
    exact proceed_running (ih hturn) ht
  | conclude _ hturn ih =>
    rw [conclude_eq (ih hturn) hturn] at ht
    cases ht

theorem Serving.works (hh : l₀.engine.handlers.Notify) {turn : Turn} (hserving : Serving l₀ s h acts)
    (ht : s.turn = some turn) : ∃ more, Serving l₀ (s.proceed (s.engine.runTurn turn)) h (acts ++ more) := by
  obtain ⟨ts, keepRunning⟩ := turn
  induction ts generalizing s acts with
  | nil =>
    have hsame : s.proceed (s.engine.runTurn ⟨[], keepRunning⟩) = s := by
      obtain ⟨engine, channel, status, parties, turn⟩ := s
      obtain rfl : turn = _ := ht
      rfl
    exact ⟨[], by rwa [hsame, List.append_nil]⟩
  | cons t ts ih =>
    obtain ⟨messages, hmessages⟩ := Engine.run_tasks_hub (hserving.handlers ▸ hh) [t]
    have hwork := hserving.work messages ht hmessages
    have hnext := @ih s.work _ hwork
    rw [work_eq ht] at hwork hnext
    unfold Engine.runTurn
    rw [Engine.run_tasks_cons]
    rcases hran : s.engine.runTasks [t] with ⟨e, err | ⟨⟩⟩ <;> rw [hran] at hwork hnext
    · exact ⟨_, hwork⟩
    · obtain ⟨more, hmore⟩ := hnext rfl
      exact ⟨_, List.append_assoc acts _ more ▸ hmore⟩

/-- A turn that nobody disturbs is a turn of the loop, so that every run of the loop is a run of the server. -/
theorem Serving.turn (hh : l₀.engine.handlers.Notify) (hserving : Serving l₀ s h acts)
    (hs : s.status = .running) (ht : s.turn = none) {letter : Letter} {rest : List Letter}
    (hc : s.channel = letter :: rest) :
    ∃ s' more, Serving l₀ s' (h ++ [letter]) (acts ++ more) ∧ s'.turn = none ∧
      s'.loop = s.loop.advance ∧ s'.parties = s.answer letter := by
  have hloop : s.loop.channel = letter.event :: rest.map (·.event) := by
    simp [loop, hc]
  have hreceived := hserving.receive hs ht hc
  have hhandle := s.engine.handle_eq_turn letter.event
  rw [receive_eq hc] at hreceived
  rcases htake : s.engine.takeUp letter.event with ⟨e, err | turn⟩ <;>
    rw [htake] at hreceived hhandle
  · exact ⟨_, _, hreceived, rfl, (Loop.advance_failed hs hloop hhandle).symm, rfl⟩
  · obtain ⟨more, hran⟩ := hreceived.works hh rfl
    rw [List.append_assoc] at hran
    change Serving l₀ (Server.proceed _ (e.runTurn turn)) _ _ at hran
    simp only [Engine.runTurn] at hhandle hran
    rcases hdone : (e.runTasks turn.tasks).2 with err | ⟨⟩ <;> rw [hdone] at hhandle hran
    · exact ⟨_, _, hran, rfl, (Loop.advance_failed hs hloop hhandle).symm, rfl⟩
    · have hrunning := hran.runs rfl
      refine ⟨_, _, hran.conclude rfl, ?_, ?_, ?_⟩
      · rw [conclude_eq hrunning rfl]
      · rw [conclude_loop hrunning rfl, Loop.advance_settled hs hloop hhandle]
        rfl
      · rw [conclude_eq hrunning rfl]
        rfl

end Server

end BundleWatch
