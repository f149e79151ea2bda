import BundleWatch.Proofs.Reload.Server

/-!
# Stages of a connection

However connections and the loop take turns, a connection is in one of a few stages. Its stage says what it
wrote, what the engine heard of it, and what the engine is still to hear. A deed of its own or a turn of the loop
for one of its letters takes it to the next stage; what others do leaves the stage alone.
-/

set_option autoImplicit false

namespace BundleWatch

open Hub

namespace Stream

def frames (messages : List String) : Bytes := messages.flatMap fun m => Bytes.ofText (frame m)

def reply (messages : List String) : Bytes := Bytes.ofText okHeader ++ frames messages

theorem reply_append (messages more : List String) :
    reply (messages ++ more) = reply messages ++ frames more := by
  simp [reply, frames]

theorem reply_mono {messages more : List String} (h : messages <+: more) :
    reply messages <+: reply more := by
  obtain ⟨rest, rfl⟩ := h
  exact ⟨frames rest, (reply_append _ _).symm⟩

end Stream

namespace Connection

/-- What a connection that was never attached has written, by its phase: nothing before it refuses, then a
beginning of the refusal with the rest of it still to come, and at the end a beginning. -/
def Unregistered (c : Connection) : Prop :=
  match c.phase with
  | .refusing left => c.written ++ left = Bytes.ofText Stream.notFound
  | .closed => c.written <+: Bytes.ofText Stream.notFound
  | _ => c.written = []

theorem Unregistered.starts_refusal {c : Connection} (h : c.Unregistered) :
    c.written <+: Bytes.ofText Stream.notFound := by
  unfold Unregistered at h
  split at h
  · exact ⟨_, h⟩
  · exact h
  · exact h ▸ List.nil_prefix

/-- A refusal that ends by being written, and not by an error, is whole. -/
theorem Unregistered.writes_whole {c : Connection} (h : c.Unregistered) {n : Nat}
    (hopen : c.phase ≠ .closed) (hclosed : (c.write n).phase = .closed) :
    (c.write n).written = Bytes.ofText Stream.notFound := by
  obtain ⟨phase, written⟩ := c
  cases phase with
  | refusing left =>
    have hall : written ++ left = Bytes.ofText Stream.notFound := h
    simp only [write] at hclosed ⊢
    split at hclosed
    · next hdone =>
      rw [← hall, ← left.take_append_drop n, List.isEmpty_iff.mp hdone, List.append_nil,
        List.take_take, Nat.min_self]
    · cases hclosed
  | closed => exact absurd rfl hopen
  | _ => cases hclosed

end Connection

/-! ## A client among others -/

namespace Hub

variable {acts : List Act} {client : Nat}

theorem received_later (h : issued acts ≤ client) : received client .empty acts = [] := by
  have hopen : ¬ HungUp acts client := by simp [HungUp, since_later h]
  have hnone : due client acts = [] := by simp [due, since_later h, messages]
  have hboth := received_waiting hopen
  rw [hnone] at hboth
  exact (List.append_eq_nil_iff.mp hboth).1

theorem Subscribed.due (h : Subscribed acts client) : due client acts = messages (since client acts) := by
  unfold Hub.due
  rw [List.takeWhile_eq_self_iff.mpr]
  intro a ha
  refine decide_eq_true ?_
  rintro rfl
  exact h.2 ha

theorem issued_le (acts more : List Act) : issued acts ≤ issued (acts ++ more) := by
  rw [issued_append]
  exact Nat.le_add_right _ _

theorem messages_since_grows (h : client < issued acts) (more : List Act) :
    messages (since client acts) <+: messages (since client (acts ++ more)) := by
  induction more using List.reverseRecOn with
  | nil => exact (List.append_nil acts).symm ▸ List.prefix_rfl
  | append_singleton more a ih =>
    have hlt := Nat.lt_of_lt_of_le h (issued_le acts more)
    rw [← List.append_assoc, since_concat, if_pos hlt, messages_append]
    exact ih.trans (List.prefix_append _ _)

theorem Listens.concat (h : Listens acts client) {a : Act} (hd : a ≠ .detach client)
    (hh : a ≠ .hangUp client) : Listens (acts ++ [a]) client := by
  constructor
  · exact (subscribed_concat _ _ _).mpr (.inl ⟨h.1, hd⟩)
  · rw [hung_up_concat]
    exact fun hor => hor.elim h.2 fun hand => hh hand.2

theorem unsubscribed_stays (hlt : client < issued acts) (h : ¬ Subscribed acts client) (a : Act) :
    ¬ Subscribed (acts ++ [a]) client := by
  rw [subscribed_concat]
  rintro (⟨hs, -⟩ | ⟨rfl, -⟩)
  · exact h hs
  · exact Nat.lt_irrefl _ hlt

def Act.Spares (client : Nat) (a : Act) : Prop :=
  a ≠ .detach client ∧ a ≠ .hangUp client ∧ a ≠ .receive client

theorem received_spared {a : Act} (ha : a.Spares client) (acts : List Act) :
    received client .empty (acts ++ [a]) = received client .empty acts := by
  rw [received_concat]
  have hnone : reading client (Hub.empty.performAll acts) a = [] := by
    cases a with
    | receive c =>
      refine if_neg ?_
      rintro rfl
      exact ha.2.2 rfl
    | _ => rfl
  rw [hnone, List.append_nil]

def Wrote (acts : List Act) (client : Nat) (written : Bytes) : Prop :=
  client < issued acts ∧ written <+: Stream.reply (messages (since client acts))

theorem Wrote.later {written : Bytes} (h : Wrote acts client written) (more : List Act) :
    Wrote (acts ++ more) client written :=
  ⟨Nat.lt_of_lt_of_le h.1 (issued_le _ _),
    h.2.trans (Stream.reply_mono (messages_since_grows h.1 more))⟩

/-- What a listening client wrote, is about to write, took and will find is all that was sent. -/
theorem Listens.complete (h : Listens acts client) {left written : Bytes} {taken inbox : List String}
    (htaken : received client .empty acts = taken ++ inbox) (hwritten : written ++ left = Stream.reply taken) :
    written ++ left ++ Stream.frames (inbox ++ (Hub.empty.performAll acts).waiting client) =
      Stream.reply (messages (since client acts)) := by
  have hall := received_waiting h.2
  rw [h.1.due, htaken, List.append_assoc] at hall
  rw [← hall, hwritten, Stream.reply_append]

theorem Listens.wrote (h : Listens acts client) {left written : Bytes} {taken inbox : List String}
    (htaken : received client .empty acts = taken ++ inbox) (hwritten : written ++ left = Stream.reply taken) :
    Wrote acts client written := by
  have hall := h.complete htaken hwritten
  rw [List.append_assoc] at hall
  exact ⟨h.1.1, _, hall⟩

end Hub

/-! ## Stages -/

/-- What was done to the hub, how the loop is, a party, what the engine heard of it, and what the engine is still
to hear. -/
inductive Stage (acts : List Act) (status : LoopStatus) : Party → List Event → List Event → Prop
  | reading : Stage acts status ⟨⟨.reading, []⟩, none, []⟩ [] []
  | refusing {left written : Bytes} : written ++ left = Bytes.ofText Stream.notFound →
      Stage acts status ⟨⟨.refusing left, written⟩, none, []⟩ [] []
  | refused {written : Bytes} : written <+: Bytes.ofText Stream.notFound →
      Stage acts status ⟨⟨.closed, written⟩, none, []⟩ [] []
  | asking : Stage acts status ⟨⟨.registering, []⟩, none, []⟩ [] [.clientConnected true]
  | abandoned : status ≠ .running →
      Stage acts status ⟨⟨.closed, []⟩, none, []⟩ [] [.clientConnected true]
  /-- The engine answered, and the party did not hear it yet. -/
  | answered {client : Nat} : Listens acts client → received client .empty acts = [] →
      Stage acts status ⟨⟨.registering, []⟩, some client, []⟩ [.clientConnected true] []
  | streaming {client : Nat} {left written : Bytes} {taken inbox : List String} : Listens acts client →
      received client .empty acts = taken ++ inbox → written ++ left = Stream.reply taken →
      Stage acts status ⟨⟨.streaming client left, written⟩, some client, inbox⟩
        [.clientConnected true] []
  | leaving {client : Nat} {written : Bytes} {inbox : List String} : Wrote acts client written →
      Stage acts status ⟨⟨.closed, written⟩, some client, inbox⟩
        [.clientConnected true] [.clientDisconnected client]
  | left {client : Nat} {written : Bytes} {inbox : List String} : Wrote acts client written →
      ¬ Subscribed acts client →
      Stage acts status ⟨⟨.closed, written⟩, some client, inbox⟩
        [.clientConnected true, .clientDisconnected client] []

namespace Stage

variable {acts : List Act} {status : LoopStatus} {p : Party} {handled waiting : List Event}

/-! ## What a stage says -/

theorem unregistered (h : Stage acts status p handled waiting) (hnone : p.client = none) :
    p.connection.Unregistered := by
  cases h with
  | refusing hall => exact hall
  | refused hpart => exact hpart
  | reading | asking => rfl
  | abandoned _ => exact List.nil_prefix
  | _ => cases hnone

theorem wrote (h : Stage acts status p handled waiting) {client : Nat} (hclient : p.client = some client) :
    Wrote acts client p.connection.written := by
  cases h with
  | answered hlistens _ => exact Option.some.inj hclient ▸ ⟨hlistens.1.1, List.nil_prefix⟩
  | streaming hlistens htaken hwritten =>
    exact Option.some.inj hclient ▸ hlistens.wrote htaken hwritten
  | leaving hwrote | left hwrote _ => exact Option.some.inj hclient ▸ hwrote
  | _ => cases hclient

theorem complete (h : Stage acts status p handled waiting) {client : Nat} {left : Bytes}
    (hphase : p.connection.phase = .streaming client left) :
    p.client = some client ∧ client ∈ (Hub.empty.performAll acts).clients ∧
      p.connection.written ++ left ++ Stream.frames (p.inbox ++ (Hub.empty.performAll acts).waiting client) =
        Stream.reply (messages (since client acts)) := by
  cases h with
  | streaming hlistens htaken hwritten =>
    obtain ⟨rfl, rfl⟩ := ConnectionPhase.streaming.inj hphase
    exact ⟨rfl, ((attached_listens (follows_all acts) _).mpr hlistens).1,
      hlistens.complete htaken hwritten⟩
  | _ => cases hphase

theorem told (h : Stage acts status p handled waiting) {client : Nat} (hclient : p.client = some client) :
    handled ++ waiting = .clientConnected true ::
      if p.connection.phase = .closed then [.clientDisconnected client] else [] := by
  cases h with
  | answered _ _ | streaming _ _ _ => rfl
  | leaving _ | left _ _ => exact Option.some.inj hclient ▸ rfl
  | _ => cases hclient

theorem gives_back (h : Stage acts status p handled waiting) {client : Nat}
    (hin : .clientDisconnected client ∈ handled ++ waiting) : p.client = some client := by
  cases h with
  | leaving _ | left _ _ =>
    obtain rfl : client = _ := by simpa using hin
    rfl
  | _ => simp at hin

theorem gave_back (h : Stage acts status p handled waiting) {client : Nat}
    (hin : .clientDisconnected client ∈ handled) : ¬ Subscribed acts client := by
  cases h with
  | left _ hgone =>
    obtain rfl : client = _ := by simpa using hin
    exact hgone
  | _ => simp at hin

/-- A party that is still to be heard asks for a number, or gives its own back. -/
theorem next {ev : Event} (h : Stage acts status p handled (ev :: waiting)) :
    ev = .clientConnected true ∨ ∃ client, ev = .clientDisconnected client ∧ p.client = some client := by
  cases h with
  | asking | abandoned _ => exact .inl rfl
  | leaving _ => exact .inr ⟨_, rfl, rfl⟩

/-! ## What others do -/

/-- Nothing that is done to the hub changes the stage of a connection that ended. -/
theorem closed (h : Stage acts status p handled waiting) (hclosed : p.connection.phase = .closed) (a : Act) :
    Stage (acts ++ [a]) status p handled waiting := by
  cases h with
  | refused hpart => exact .refused hpart
  | abandoned hended => exact .abandoned hended
  | leaving hwrote => exact .leaving (hwrote.later [a])
  | left hwrote hgone => exact .left (hwrote.later [a]) (unsubscribed_stays hwrote.1 hgone a)
  | _ => cases hclosed

theorem spared (h : Stage acts status p handled waiting) {a : Act}
    (ha : ∀ client, p.client = some client → a.Spares client) :
    Stage (acts ++ [a]) status p handled waiting := by
  have hclosed := h.closed
  cases h with
  | reading => exact .reading
  | refusing hall => exact .refusing hall
  | asking => exact .asking
  | answered hlistens hnone =>
    have hspares := ha _ rfl
    exact .answered (hlistens.concat hspares.1 hspares.2.1) ((received_spared hspares acts).trans hnone)
  | streaming hlistens htaken hwritten =>
    have hspares := ha _ rfl
    exact .streaming (hlistens.concat hspares.1 hspares.2.1) ((received_spared hspares acts).trans htaken)
      hwritten
  | _ => exact hclosed rfl a

theorem spared_all (h : Stage acts status p handled waiting) {more : List Act}
    (hmore : ∀ a ∈ more, ∀ client, p.client = some client → a.Spares client) :
    Stage (acts ++ more) status p handled waiting := by
  induction more using List.reverseRecOn with
  | nil => rwa [List.append_nil]
  | append_singleton more a ih =>
    obtain ⟨hfirst, hlast⟩ := List.forall_mem_append.mp hmore
    rw [← List.append_assoc]
    exact (ih hfirst).spared (hlast a (List.mem_singleton.mpr rfl))

/-- While the loop ran no party was abandoned, so a stage does not depend on what becomes of it. -/
theorem turned (h : Stage acts .running p handled waiting) (later : LoopStatus) :
    Stage acts later p handled waiting := by
  cases h with
  | abandoned hended => exact absurd rfl hended
  | _ => constructor <;> assumption

/-! ## Deeds -/

abbrev After (acts : List Act) (status : LoopStatus) (handled waiting : List Event) (o : Outcome) : Prop :=
  Stage (acts ++ o.acts) status o.party handled (waiting ++ o.notices.map (·.event))

theorem kept (h : Stage acts status p handled waiting) : After acts status handled waiting ⟨p, [], []⟩ := by
  simpa [After] using h

theorem request (h : Stage acts status p handled waiting) (hub : Hub) (endpoint : String)
    (r : Stream.Request) : After acts status handled waiting (p.does hub (.request endpoint r)) := by
  have hkept := h.kept
  cases h with
  | reading =>
    rcases r with _ | _ | line
    · exact hkept
    · exact .refused List.nil_prefix
    · simp only [Party.does, Connection.answerRequest]
      split
      · exact .asking
      · exact .refusing rfl
  | _ => exact hkept

theorem write (h : Stage acts status p handled waiting) (hub : Hub) (n : Nat) :
    After acts status handled waiting (p.does hub (.write n)) := by
  have hkept := h.kept
  cases h with
  | @refusing left written hall =>
    have hsplit : written ++ left.take n ++ left.drop n = Bytes.ofText Stream.notFound := by
      rw [List.append_assoc, List.take_append_drop, hall]
    simp only [Party.does, Connection.write]
    split
    · exact .kept (.refused ⟨left.drop n, hsplit⟩)
    · exact .kept (.refusing hsplit)
  | @streaming client left written taken inbox hlistens htaken hwritten =>
    have hsplit : written ++ left.take n ++ left.drop n = Stream.reply taken := by
      rw [List.append_assoc, List.take_append_drop, hwritten]
    exact .kept (.streaming hlistens htaken hsplit)
  | _ => exact hkept

theorem hear (h : Stage acts status p handled waiting) (hub : Hub) :
    After acts status handled waiting (p.does hub .hear) := by
  have hkept := h.kept
  cases h with
  | @answered client hlistens hnone =>
    have htaken : received client .empty acts = [] ++ [] := hnone
    have hheader : [] ++ Bytes.ofText Stream.okHeader = Stream.reply [] := (List.append_nil _).symm
    exact .kept (.streaming hlistens htaken hheader)
  | _ => exact hkept

theorem fetch (h : Stage acts status p handled waiting) :
    After acts status handled waiting (p.does (Hub.empty.performAll acts) .fetch) := by
  have hkept := h.kept
  cases h with
  | @streaming client left written taken inbox hlistens htaken hwritten =>
    have hlater : Listens (acts ++ [.receive client]) client :=
      hlistens.concat Act.noConfusion Act.noConfusion
    have hread : received client .empty (acts ++ [.receive client]) =
        taken ++ (inbox ++ ((Hub.empty.performAll acts).receive client).2.getD []) := by
      rw [received_concat, htaken, List.append_assoc, Hub.reading, if_pos rfl]
    exact .streaming hlater hread hwritten
  | _ => exact hkept

theorem take (h : Stage acts status p handled waiting) (hub : Hub) :
    After acts status handled waiting (p.does hub .take) := by
  have hkept := h.kept
  cases h with
  | @streaming client left written taken inbox hlistens htaken hwritten =>
    rcases left with _ | ⟨b, left⟩
    · rcases inbox with _ | ⟨message, inbox⟩
      · exact hkept
      · have hread : received client .empty acts = (taken ++ [message]) ++ inbox := by
          rw [htaken, List.append_assoc, List.singleton_append]
        have hnext : written ++ Bytes.ofText (Stream.frame message) = Stream.reply (taken ++ [message]) := by
          rw [Stream.reply_append, ← hwritten]
          simp [Stream.frames]
        exact .kept (.streaming hlistens hread hnext)
    · exact hkept
  | _ => exact hkept

theorem finish (h : Stage acts status p handled waiting) (hub : Hub) (hmay : p.MayDo status .finish) :
    After acts status handled waiting (p.does hub .finish) := by
  have hkept := h.kept
  cases h with
  | reading => exact .kept (.refused List.nil_prefix)
  | @refusing left written hall => exact .kept (.refused ⟨left, hall⟩)
  | asking => exact .kept (.abandoned (hmay rfl).2)
  | answered hlistens hnone => cases (hmay rfl).1
  | @streaming client left written taken inbox hlistens htaken hwritten =>
    exact .leaving ((hlistens.wrote htaken hwritten).later [])
  | _ => exact hkept

theorem release (h : Stage acts status p handled waiting) (hub : Hub) :
    After acts status handled waiting (p.does hub .release) := by
  have hkept := h.kept
  have hclosed := h.closed
  cases h with
  | @leaving client => exact hclosed rfl (.hangUp client)
  | @left client => exact hclosed rfl (.hangUp client)
  | _ => exact hkept

theorem deed (h : Stage acts status p handled waiting) {d : Deed} (hmay : p.MayDo status d) :
    After acts status handled waiting (p.does (Hub.empty.performAll acts) d) := by
  cases d with
  | request endpoint r => exact h.request _ endpoint r
  | write n => exact h.write _ n
  | hear => exact h.hear _
  | fetch => exact h.fetch
  | take => exact h.take _
  | finish => exact h.finish _ hmay
  | release => exact h.release _

end Stage

namespace Party

theorem does_client (p : Party) (hub : Hub) (d : Deed) : (p.does hub d).party.client = p.client := by
  cases d with
  | request endpoint r => rfl
  | write n => rfl
  | finish => rfl
  | hear | fetch | take | release =>
    unfold does
    simp only []
    split <;> rfl

theorem does_acts {p : Party} {hub : Hub} {d : Deed} {a : Act} (ha : a ∈ (p.does hub d).acts) :
    (∃ client left, a = .receive client ∧ p.connection.phase = .streaming client left) ∨
      ∃ client, a = .hangUp client ∧ p.client = some client := by
  cases d with
  | request _ _ | write _ | finish => cases ha
  | hear | take =>
    unfold does at ha
    simp only [] at ha
    split at ha <;> cases ha
  | fetch =>
    unfold does at ha
    simp only [] at ha
    split at ha
    · next client left hphase => exact .inl ⟨client, left, List.mem_singleton.mp ha, hphase⟩
    · cases ha
  | release =>
    unfold does at ha
    simp only [] at ha
    split at ha
    · next client _ hclient => exact .inr ⟨client, List.mem_singleton.mp ha, hclient⟩
    · cases ha

end Party

namespace Stage

variable {acts : List Act} {p : Party} {handled waiting : List Event}

theorem deed_spares {status : LoopStatus} (h : Stage acts status p handled waiting) {hub : Hub} {d : Deed}
    {a : Act} (ha : a ∈ (p.does hub d).acts) {other : Nat} (hother : p.client ≠ some other) :
    a.Spares other := by
  rcases Party.does_acts ha with ⟨client, left, rfl, hphase⟩ | ⟨client, rfl, hclient⟩
  · refine ⟨Act.noConfusion, Act.noConfusion, ?_⟩
    rintro ⟨⟩
    exact hother (h.complete hphase).1
  · refine ⟨Act.noConfusion, ?_, Act.noConfusion⟩
    rintro ⟨⟩
    exact hother hclient

/-! ## Turns -/

theorem connected (h : Stage acts .running p handled (.clientConnected true :: waiting)) :
    Stage (acts ++ [.attach]) .running { p with client := some (issued acts) }
      (handled ++ [.clientConnected true]) waiting := by
  cases h with
  | asking =>
    have hlistens : Listens (acts ++ [.attach]) (issued acts) := by
      constructor
      · exact (subscribed_concat _ _ _).mpr (.inr ⟨rfl, rfl⟩)
      · rw [hung_up_concat]
        simp [HungUp, since_later (Nat.le_refl _)]
    have hspares : Act.attach.Spares (issued acts) :=
      ⟨Act.noConfusion, Act.noConfusion, Act.noConfusion⟩
    exact .answered hlistens ((received_spared hspares acts).trans (received_later (Nat.le_refl _)))
  | abandoned hended => exact absurd rfl hended

theorem disconnected {client : Nat}
    (h : Stage acts .running p handled (.clientDisconnected client :: waiting)) :
    Stage (acts ++ [.detach client]) .running p (handled ++ [.clientDisconnected client]) waiting := by
  cases h with
  | leaving hwrote =>
    have hgone : ¬ Subscribed (acts ++ [.detach client]) client := by
      rw [subscribed_concat]
      simp
    exact .left (hwrote.later _) hgone

end Stage

end BundleWatch
