import BundleWatch.Files.Memory
import BundleWatch.Proofs.Engine.Setup
import BundleWatch.Proofs.Reload.Broadcast

/-!
# Clients of the engine

Clients come to the hub and leave it by events of the engine, handlers send them messages, and they empty
their mailboxes or hang up on their own. Whatever an operation of the engine does to the hub, it does by acts
of the hub, so the laws of broadcast hold along every sequence of operations.
-/

set_option autoImplicit false

namespace BundleWatch

open Hub

variable {σ : Type}

def Effect.broadcasting (σ : Type) : Effect σ :=
  fun _ w w' => ∃ acts, w'.hub = w.hub.performAll acts

def HandlerRegistry.Broadcast (r : HandlerRegistry σ) : Prop := r.Keep (.broadcasting σ)

def Operation.ActsOnHub : Operation σ → Prop
  | .outside _ hub => ∀ h : Hub, ∃ acts, hub h = h.performAll acts
  | _ => True

def Effect.notifying (σ : Type) : Effect σ :=
  fun _ w w' => ∃ messages : List String, w'.hub = w.hub.performAll (messages.map .notify)

def HandlerRegistry.Notify (r : HandlerRegistry σ) : Prop := r.Keep (.notifying σ)

theorem HandlerRegistry.Keep.register_notifying [Host σ] {r : HandlerRegistry σ} {R : Effect σ}
    (hr : r.Keep R) (hR : ∀ settings w w', Effect.notifying σ settings w w' → R settings w w') :
    r.registerBuiltins.Keep R := by
  refine hr.register_builtins ?_ ?_ ?_ ?_ <;> intro settings args w
  · obtain ⟨files, done, heq⟩ := Task.copy_frame settings args w
    rw [heq]
    exact hR _ _ _ ⟨[], rfl⟩
  · obtain ⟨t, done, heq⟩ := Task.command_frame settings args w
    rw [heq]
    exact hR _ _ _ ⟨[], rfl⟩
  · obtain ⟨hub, done, heq, rfl | ⟨message, rfl⟩⟩ := Task.reload_frame settings args w
    · rw [heq]
      exact hR _ _ _ ⟨[], rfl⟩
    · rw [heq]
      exact hR _ _ _ ⟨[message], rfl⟩
  · exact hR _ _ _ ⟨[], rfl⟩

theorem HandlerRegistry.Broadcast.register_builtins [Host σ] {r : HandlerRegistry σ}
    (hr : r.Broadcast) : r.registerBuiltins.Broadcast :=
  hr.register_notifying fun _ _ _ ⟨messages, hsent⟩ => ⟨messages.map .notify, hsent⟩

theorem HandlerRegistry.Notify.register_builtins [Host σ] {r : HandlerRegistry σ} (hr : r.Notify) :
    r.registerBuiltins.Notify :=
  hr.register_notifying fun _ _ _ hsent => hsent

namespace Engine

/-- How a client is attached by an event. One that does not hear its number is detached at once. -/
def connection (h : Hub) (hearsReply : Bool) : List Act :=
  .attach :: if hearsReply then [] else [.hangUp h.mailboxes.length, .detach h.mailboxes.length]

theorem flush_hub {e : Engine σ} (hh : e.handlers.Broadcast) :
    ∃ acts, e.flush.1.world.hub = e.world.hub.performAll acts := by
  refine run_batch_keeps (R := .broadcasting σ) (fun _ _ => ⟨[], rfl⟩) ?_ hh e.settings _ _ e.world
  rintro settings u v w ⟨acts, hu⟩ ⟨more, hv⟩
  exact ⟨acts ++ more, by rw [hv, hu, perform_all_append]⟩

variable [FileSystem σ]

/-- The acts of an operation. A flush performs those of its handlers, and what happens outside those of the
clients. -/
def HubActs (e : Engine σ) (op : Operation σ) (acts : List Act) : Prop :=
  match op with
  | .step (.clientConnected hearsReply) => acts = connection e.world.hub hearsReply
  | .step (.clientDisconnected client) => acts = [.detach client]
  | .flush | .step .flush | .outside _ _ =>
    (e.perform op).world.hub = e.world.hub.performAll acts
  | _ => acts = []

def HubHistory (e : Engine σ) : List (Operation σ) → List Act → Prop
  | [], acts => acts = []
  | op :: ops, acts =>
    ∃ first rest, acts = first ++ rest ∧ e.HubActs op first ∧ (e.perform op).HubHistory ops rest

theorem hub_acts_exist {e : Engine σ} (hh : e.handlers.Broadcast) {op : Operation σ}
    (hop : op.ActsOnHub) : ∃ acts, e.HubActs op acts := by
  cases op with
  | outside files hub => exact hop e.world.hub
  | flush => exact flush_hub hh
  | step ev =>
    cases ev with
    | flush =>
      obtain ⟨acts, hacts⟩ := flush_hub hh
      refine ⟨acts, ?_⟩
      change (e.step .flush).1.world.hub = _
      rw [step_world]
      exact hacts
    | clientConnected hearsReply => exact ⟨_, rfl⟩
    | clientDisconnected client => exact ⟨_, rfl⟩
    | _ => exact ⟨[], rfl⟩
  | _ => exact ⟨[], rfl⟩

theorem step_hub (e : Engine σ) (ev : Event) :
    (e.perform (.step ev)).world.hub = (e.handle ev).1.world.hub :=
  congrArg World.hub (e.step_world ev)

theorem perform_hub {e : Engine σ} {op : Operation σ} {acts : List Act} (h : e.HubActs op acts) :
    (e.perform op).world.hub = e.world.hub.performAll acts := by
  cases op with
  | enqueue handler args =>
    cases h
    rfl
  | submit p =>
    cases h
    obtain ⟨q, j, heq⟩ := e.submit_frame p
    exact congrArg (·.world.hub) heq
  | scan dir filter =>
    cases h
    obtain ⟨q, ws, j, heq⟩ := e.scan_frame dir filter
    exact congrArg (·.world.hub) heq
  | watchDir dir filter =>
    cases h
    obtain ⟨ws, j, heq⟩ := e.watch_dir_frame dir filter
    exact congrArg (·.world.hub) heq
  | outside files hub => exact h
  | flush => exact h
  | nextStep keepRunning =>
    cases h
    exact congrArg (·.world.hub) (e.next_step_frame keepRunning)
  | step ev =>
    cases ev with
    | flush => exact h
    | pathChanged watch p =>
      cases h
      obtain ⟨q, j, heq⟩ := e.change_frame watch p
      exact (e.step_hub _).trans (congrArg (·.world.hub) heq)
    | commandExited id description status =>
      cases h
      rw [step_hub]
      cases status <;> rfl
    | clientConnected hearsReply =>
      cases h
      rw [step_hub]
      cases hearsReply <;> rfl
    | clientDisconnected client =>
      cases h
      exact e.step_hub _
    | shutdown =>
      cases h
      exact e.step_hub _

theorem perform_all_hub {ops : List (Operation σ)} {e : Engine σ} {acts : List Act}
    (h : e.HubHistory ops acts) : (e.performAll ops).world.hub = e.world.hub.performAll acts := by
  induction ops generalizing e acts with
  | nil =>
    cases h
    rfl
  | cons op ops ih =>
    obtain ⟨first, rest, rfl, hfirst, hrest⟩ := h
    rw [perform_all_append, ← perform_hub hfirst]
    exact ih hrest

theorem hub_history_exists {e : Engine σ} (hh : e.handlers.Broadcast) {ops : List (Operation σ)}
    (hops : ∀ op ∈ ops, op.ActsOnHub) : ∃ acts, e.HubHistory ops acts := by
  induction ops generalizing e with
  | nil => exact ⟨[], rfl⟩
  | cons op ops ih =>
    obtain ⟨first, hfirst⟩ := hub_acts_exist hh (hops op (by simp))
    have hsame : (e.perform op).handlers = e.handlers :=
      congrArg Setup.handlers (e.perform_setup op)
    have hkept : (e.perform op).handlers.Broadcast := hsame ▸ hh
    obtain ⟨rest, hrest⟩ := ih hkept fun o ho => hops o (by simp [ho])
    exact ⟨first ++ rest, first, rest, rfl, hfirst, hrest⟩

/-- A client that does not hear its number was never there for those who are. -/
theorem connect_unheard {e : Engine σ} {acts : List Act} (hf : Follows e.world.hub acts) :
    (e.step (.clientConnected false)).1.world.hub.clients = e.world.hub.clients := by
  rw [step_world]
  have hnew : ∀ c ∈ e.world.hub.clients, c ≠ e.world.hub.mailboxes.length := by
    intro c hc
    rw [hf.count]
    exact Nat.ne_of_lt (hf.client_lt hc)
  change (e.world.hub.clients ++ [e.world.hub.mailboxes.length]).filter _ = _
  rw [List.filter_append, List.filter_eq_self.mpr fun c hc => decide_eq_true (hnew c hc)]
  simp

/-- The laws of broadcast hold of a hub after every sequence of acts. They hold as well of the hub of an
engine after every sequence of operations, whose history has one act or more for each client that came and
left by an event. -/
theorem broadcast_lawful :
    (∀ acts, Lawful (Hub.empty.performAll acts) acts) ∧
      ∀ e : Engine σ, e.world.hub = .empty → e.handlers.Broadcast →
        ∀ ops : List (Operation σ), (∀ op ∈ ops, op.ActsOnHub) →
          ∃ acts, e.HubHistory ops acts ∧
            (e.performAll ops).world.hub = Hub.empty.performAll acts ∧
            Lawful (e.performAll ops).world.hub acts ∧
            ((e.performAll ops).step (.clientConnected false)).1.world.hub.clients =
              (e.performAll ops).world.hub.clients := by
  refine ⟨lawful, fun e hempty hh ops hops => ?_⟩
  obtain ⟨acts, hacts⟩ := hub_history_exists hh hops
  have hhub : (e.performAll ops).world.hub = Hub.empty.performAll acts :=
    hempty ▸ perform_all_hub hacts
  exact ⟨acts, hacts, hhub, hhub ▸ lawful acts, connect_unheard (hhub ▸ follows_all acts)⟩

def quietHub : Engine Memory where
  settings := default
  world := { files := .new }
  handlers := HandlerRegistry.empty.registerBuiltins

/-- A client connects and another one is gone before it hears its number. One message is sent, the client
reads it, disconnects, and misses the next. -/
def visit : List (Operation Memory) :=
  [.step (.clientConnected true), .step (.clientConnected false),
    .enqueue Task.reloadName [.text "app.css"], .step .flush,
    .outside id fun h => (h.receive 0).1, .step (.clientDisconnected 0),
    .enqueue Task.reloadName [.text "app.js"], .step .flush]

theorem visit_acts_on_hub : ∀ op ∈ visit, op.ActsOnHub := by
  intro op hop
  simp only [visit, List.mem_cons, List.not_mem_nil, or_false] at hop
  rcases hop with rfl | rfl | rfl | rfl | rfl | rfl | rfl | rfl <;> try trivial
  exact fun h => ⟨[.receive 0], rfl⟩

theorem broadcast_lawful_visit :
    (∃ acts, quietHub.HubHistory visit acts ∧
      (quietHub.performAll visit).world.hub = Hub.empty.performAll acts ∧
      Lawful (quietHub.performAll visit).world.hub acts ∧
      ((quietHub.performAll visit).step (.clientConnected false)).1.world.hub.clients =
        (quietHub.performAll visit).world.hub.clients) ∧
      (quietHub.performAll (visit.take 4)).world.hub.waiting 0 = ["app.css"] ∧
      (quietHub.performAll visit).world.hub.clients = [] :=
  ⟨broadcast_lawful.2 quietHub rfl (.register_builtins .empty) visit visit_acts_on_hub,
    by decide +kernel, by decide +kernel⟩

end Engine

end BundleWatch
