import BundleWatch.Proofs.Reload.Stage

/-!
# The stream protocol

Along every run of the server each connection is in its stage, and no two connections are one client. So whatever
the interleaving, a connection writes a beginning of the refusal, or of the stream that begins when the engine
attached it; no message is skipped while it lasts; and its end is told once and touches no one else.
-/

set_option autoImplicit false

namespace BundleWatch

open Hub

variable {σ : Type}

namespace Letter

/-- A letter is from one of `n` connections, or no connection would have sent it. -/
def Signed (n : Nat) (letter : Letter) : Prop :=
  match letter.sender with
  | none => letter.event.Foreign
  | some i => i < n

theorem Signed.sender_lt {n i : Nat} {letter : Letter} (h : letter.Signed n) (hi : letter.sender = some i) :
    i < n := by
  simpa [Signed, hi] using h

theorem Signed.mono {n m : Nat} {letter : Letter} (h : letter.Signed n) (hle : n ≤ m) : letter.Signed m := by
  unfold Signed at h ⊢
  split at h
  · exact h
  · exact Nat.lt_of_lt_of_le h hle

end Letter

namespace Server

/-! ## Runs -/

def clientOf (s : Server σ) (i : Nat) : Option Nat := s.parties[i]?.bind (·.client)

theorem client_of_eq_some {s : Server σ} {i client : Nat} :
    s.clientOf i = some client ↔ ∃ p, s.parties[i]? = some p ∧ p.client = some client :=
  Option.bind_eq_some_iff

structure Sound (s : Server σ) (h : List Letter) (acts : List Act) : Prop where
  hub : s.hub = Hub.empty.performAll acts
  stages : ∀ i p, s.parties[i]? = some p → Stage acts s.status p (sentBy i h) (sentBy i s.channel)
  apart : ∀ i j client, s.clientOf i = some client → s.clientOf j = some client → i = j
  signed : ∀ letter ∈ h ++ s.channel, letter.Signed s.parties.length

variable {s : Server σ} {h : List Letter} {acts : List Act}

theorem sound_of_loop {l : Loop σ} (hempty : l.engine.world.hub = .empty)
    (hforeign : ∀ ev ∈ l.channel, ev.Foreign) : (ofLoop l).Sound [] [] where
  hub := hempty
  stages := by simp [ofLoop]
  apart := by simp [ofLoop, clientOf]
  signed := by
    intro letter hin
    obtain ⟨ev, hev, rfl⟩ := List.mem_map.mp hin
    exact hforeign ev hev

theorem accepted_party {i : Nat} {p : Party} (hp : s.accept.parties[i]? = some p) :
    s.parties[i]? = some p ∨ (i = s.parties.length ∧ p = {}) := by
  rw [accept, List.getElem?_append] at hp
  split at hp
  · exact .inl hp
  · rw [List.getElem?_singleton] at hp
    split at hp
    · exact .inr ⟨by omega, (Option.some.inj hp).symm⟩
    · cases hp

theorem accept_client (s : Server σ) : s.accept.clientOf = s.clientOf := by
  funext i
  unfold clientOf accept
  rw [List.getElem?_append]
  split
  · rfl
  · next hge =>
    rw [List.getElem?_eq_none (Nat.le_of_not_lt hge), List.getElem?_singleton]
    split <;> rfl

theorem Sound.accept (hs : s.Sound h acts) : s.accept.Sound h acts where
  hub := hs.hub
  stages := by
    intro i p hp
    rcases accepted_party hp with hold | ⟨rfl, rfl⟩
    · exact hs.stages i p hold
    · have hnew : ∀ letter ∈ h ++ s.channel, letter.sender ≠ some s.parties.length := by
        intro letter hin hsender
        exact Nat.lt_irrefl _ ((hs.signed letter hin).sender_lt hsender)
      obtain ⟨hheard, hwaiting⟩ := List.forall_mem_append.mp hnew
      rw [sent_by_none _ hheard, Server.accept, sent_by_none _ hwaiting]
      exact .reading
  apart := by
    rw [accept_client]
    exact hs.apart
  signed := by
    intro letter hin
    have hlonger : s.parties.length ≤ s.accept.parties.length := by simp [Server.accept]
    exact (hs.signed letter hin).mono hlonger

theorem Sound.post (hs : s.Sound h acts) {ev : Event} (hev : ev.Foreign) : (s.post ev).Sound h acts where
  hub := hs.hub
  stages := by
    intro i p hp
    have hstage := hs.stages i p hp
    rw [Server.post, sent_by_concat, if_neg (by simp), List.append_nil]
    exact hstage
  apart := hs.apart
  signed := by
    intro letter hin
    rw [Server.post, ← List.append_assoc] at hin
    rcases List.mem_append.mp hin with hin | hin
    · exact hs.signed letter hin
    · obtain rfl := List.mem_singleton.mp hin
      exact hev

theorem Sound.change_files (hs : s.Sound h acts) (files : σ → σ) : (s.changeFiles files).Sound h acts :=
  ⟨hs.hub, hs.stages, hs.apart, hs.signed⟩

theorem settled_party {i j : Nat} {p q : Party} {o : Outcome} (hp : s.parties[i]? = some p)
    (hq : (s.settle i o).parties[j]? = some q) :
    (i = j ∧ q = o.party) ∨ (i ≠ j ∧ s.parties[j]? = some q) := by
  rw [Server.settle, List.getElem?_set] at hq
  split at hq
  · next heq =>
    have hlt := (List.getElem?_eq_some_iff.mp hp).1
    rw [if_pos hlt] at hq
    exact .inl ⟨heq, (Option.some.inj hq).symm⟩
  · next hne => exact .inr ⟨hne, hq⟩

theorem settle_client {i : Nat} {p : Party} {o : Outcome} (hp : s.parties[i]? = some p)
    (ho : o.party.client = p.client) : (s.settle i o).clientOf = s.clientOf := by
  funext j
  unfold clientOf Server.settle
  rw [List.getElem?_set]
  split
  · next heq =>
    subst heq
    rw [if_pos (List.getElem?_eq_some_iff.mp hp).1, hp]
    exact ho
  · rfl

theorem settle_sent_by (i j : Nat) (o : Outcome) :
    sentBy j (s.settle i o).channel =
      sentBy j s.channel ++ if i = j then o.notices.map (·.event) else [] := by
  rw [Server.settle, sent_by_append, sent_by_one]

theorem Sound.settle {i : Nat} {p : Party} {d : Deed} (hs : s.Sound h acts) (hp : s.parties[i]? = some p)
    (hmay : p.MayDo s.status d) :
    (s.settle i (p.does s.hub d)).Sound h (acts ++ (p.does s.hub d).acts) where
  hub := by
    rw [perform_all_append, ← hs.hub]
    rfl
  stages := by
    intro j q hq
    rw [settle_sent_by]
    rcases settled_party hp hq with ⟨rfl, rfl⟩ | ⟨hne, hq⟩
    · rw [if_pos rfl, hs.hub]
      exact (hs.stages i p hp).deed hmay
    · rw [if_neg hne, List.append_nil]
      refine (hs.stages j q hq).spared_all fun a ha client hclient => ?_
      refine (hs.stages i p hp).deed_spares ha ?_
      intro hsame
      exact hne (hs.apart i j client (client_of_eq_some.mpr ⟨p, hp, hsame⟩)
        (client_of_eq_some.mpr ⟨q, hq, hclient⟩))
  apart := by
    rw [settle_client hp (p.does_client s.hub d)]
    exact hs.apart
  signed := by
    intro letter hin
    rw [Server.settle, ← List.append_assoc] at hin
    simp only [Server.settle, List.length_set]
    rcases List.mem_append.mp hin with hin | hin
    · exact hs.signed letter hin
    · obtain ⟨ev, -, rfl⟩ := List.mem_map.mp hin
      exact (List.getElem?_eq_some_iff.mp hp).1

theorem Sound.act {i : Nat} {d : Deed} (hs : s.Sound h acts)
    (hmay : ∀ p, s.parties[i]? = some p → p.MayDo s.status d) :
    (s.act i d).Sound h (acts ++ s.actsOf i d) := by
  unfold Server.act actsOf
  rcases hp : s.parties[i]? with _ | p
  · rwa [List.append_nil]
  · exact hs.settle hp (hmay p hp)

/-! ## Turns -/

variable {letter : Letter} {rest : List Letter}

theorem answered_party {i : Nat} {q : Party} (hq : (s.answer letter)[i]? = some q) :
    (s.parties[i]? = some q ∧ ∀ hears, letter ≠ ⟨some i, .clientConnected hears⟩) ∨
      ∃ p hears, s.parties[i]? = some p ∧ letter = ⟨some i, .clientConnected hears⟩ ∧
        q = { p with client := some s.hub.attach.2 } := by
  unfold answer at hq
  split at hq
  · next j hears =>
    rw [List.getElem?_modify] at hq
    obtain ⟨p, hp, hchanged⟩ := Option.map_eq_some_iff.mp hq
    by_cases heq : j = i
    · subst heq
      rw [if_pos rfl] at hchanged
      exact .inr ⟨p, hears, hp, rfl, hchanged.symm⟩
    · rw [if_neg heq] at hchanged
      refine .inl ⟨hchanged ▸ hp, ?_⟩
      rintro _ ⟨⟩
      exact heq rfl
  · next hnone => exact .inl ⟨hq, fun hears heq => hnone _ _ heq⟩

theorem answer_length (s : Server σ) (letter : Letter) : (s.answer letter).length = s.parties.length := by
  unfold answer
  split
  · exact List.length_modify _ _ _
  · rfl

theorem Sound.sender_party (hs : s.Sound h acts) (hin : letter ∈ h ++ s.channel) :
    (letter.sender = none ∧ letter.event.Foreign) ∨
      ∃ i p, letter.sender = some i ∧ s.parties[i]? = some p := by
  have hsigned := hs.signed letter hin
  obtain ⟨_ | i, ev⟩ := letter
  · exact .inl ⟨rfl, hsigned⟩
  · exact .inr ⟨i, _, rfl, List.getElem?_eq_getElem hsigned⟩

theorem Sound.letter_cases (hs : s.Sound h acts) (hc : s.channel = letter :: rest) :
    (letter.sender = none ∧ letter.event.Foreign) ∨ (∃ i, letter = ⟨some i, .clientConnected true⟩) ∨
      ∃ i client, letter = ⟨some i, .clientDisconnected client⟩ ∧ s.clientOf i = some client := by
  have hnext : letter ∈ h ++ s.channel := by simp [hc]
  obtain ⟨sender, ev⟩ := letter
  rcases hs.sender_party hnext with houtside | ⟨i, p, rfl, hp⟩
  · exact .inl houtside
  · have hstage := hs.stages i p hp
    rw [hc, sent_by_cons, if_pos rfl] at hstage
    rcases hstage.next with rfl | ⟨client, rfl, hclient⟩
    · exact .inr (.inl ⟨i, rfl⟩)
    · exact .inr (.inr ⟨i, client, rfl, client_of_eq_some.mpr ⟨p, hp, hclient⟩⟩)

theorem Sound.gives_back (hs : s.Sound h acts) (hin : letter ∈ h ++ s.channel) {client : Nat}
    (hev : letter.event = .clientDisconnected client) :
    ∃ i p, letter.sender = some i ∧ s.parties[i]? = some p ∧ p.client = some client := by
  rcases hs.sender_party hin with ⟨-, hforeign⟩ | ⟨i, p, hsender, hp⟩
  · rw [hev] at hforeign
    exact hforeign.elim
  · have hmine := mem_sent_by hin hsender
    rw [hev, sent_by_append] at hmine
    exact ⟨i, p, hsender, hp, (hs.stages i p hp).gives_back hmine⟩

theorem Sound.client_lt (hs : s.Sound h acts) {i client : Nat} (hi : s.clientOf i = some client) :
    client < issued acts := by
  obtain ⟨p, hp, hclient⟩ := client_of_eq_some.mp hi
  exact ((hs.stages i p hp).wrote hclient).1

theorem Sound.next_client (hs : s.Sound h acts) : s.hub.attach.2 = issued acts := by
  rw [hs.hub]
  exact (follows_all acts).count

theorem foreign_acts {ev : Event} (hev : ev.Foreign) (hub : Hub) : ev.acts hub = [] := by
  cases ev with
  | clientConnected hears => exact hev.elim
  | clientDisconnected client => exact hev.elim
  | _ => rfl

theorem Sound.receive_spares (hs : s.Sound h acts) (hc : s.channel = letter :: rest) {j client : Nat}
    (hj : s.clientOf j = some client) (hother : letter.sender ≠ some j) :
    ∀ a ∈ letter.event.acts s.hub, a.Spares client := by
  intro a ha
  rcases hs.letter_cases hc with ⟨-, hforeign⟩ | ⟨i, rfl⟩ | ⟨i, left, rfl, hi⟩
  · rw [foreign_acts hforeign] at ha
    cases ha
  · obtain rfl := List.mem_singleton.mp ha
    exact ⟨Act.noConfusion, Act.noConfusion, Act.noConfusion⟩
  · obtain rfl := List.mem_singleton.mp ha
    refine ⟨?_, Act.noConfusion, Act.noConfusion⟩
    rintro ⟨⟩
    exact hother (congrArg some (hs.apart i j client hi hj))

theorem Sound.receive_stage (hs : s.Sound h acts) (hl : s.status = .running)
    (hc : s.channel = letter :: rest) {j : Nat} {q : Party} (hq : (s.answer letter)[j]? = some q) :
    Stage (acts ++ letter.event.acts s.hub) .running q (sentBy j (h ++ [letter])) (sentBy j rest) := by
  rcases answered_party hq with ⟨hq, hnot⟩ | ⟨p, hears, hp, rfl, rfl⟩
  · have hstage := hs.stages j q hq
    rw [hl, hc, sent_by_cons] at hstage
    rw [sent_by_concat]
    by_cases hmine : letter.sender = some j
    · rw [if_pos hmine] at hstage ⊢
      rcases hs.letter_cases hc with ⟨hnone, -⟩ | ⟨i, rfl⟩ | ⟨i, client, rfl, -⟩
      · rw [hnone] at hmine
        cases hmine
      · obtain rfl := Option.some.inj hmine
        exact absurd rfl (hnot true)
      · exact hstage.disconnected
    · rw [if_neg hmine, List.nil_append] at hstage
      rw [if_neg hmine, List.append_nil]
      refine hstage.spared_all fun a ha client hclient => ?_
      exact hs.receive_spares hc (client_of_eq_some.mpr ⟨q, hq, hclient⟩) hmine a ha
  · have hstage := hs.stages j p hp
    rw [hl, hc, sent_by_cons, if_pos rfl] at hstage
    rw [sent_by_concat, if_pos rfl, hs.next_client]
    rcases hstage.next with heq | ⟨client, heq, -⟩
    · cases heq
      exact hstage.connected
    · cases heq

theorem Sound.receive_client [FileSystem σ] (hs : s.Sound h acts) (hc : s.channel = letter :: rest)
    {i client : Nat} (hi : s.receive.clientOf i = some client) :
    s.clientOf i = some client ∨ (letter.sender = some i ∧ client = issued acts) := by
  obtain ⟨q, hq, hclient⟩ := client_of_eq_some.mp hi
  rw [receive_parties hc] at hq
  rcases answered_party hq with ⟨hq, -⟩ | ⟨p, hears, -, rfl, rfl⟩
  · exact .inl (client_of_eq_some.mpr ⟨q, hq, hclient⟩)
  · exact .inr ⟨rfl, (Option.some.inj hclient).symm.trans hs.next_client⟩

theorem Sound.receive [FileSystem σ] (hs : s.Sound h acts) (hl : s.status = .running)
    (hc : s.channel = letter :: rest) : s.receive.Sound (h ++ [letter]) (acts ++ letter.event.acts s.hub) := by
  constructor
  case hub => rw [receive_hub hc, perform_all_append, ← hs.hub]
  case stages =>
    intro j q hq
    rw [receive_parties hc] at hq
    rw [receive_channel hc]
    exact (hs.receive_stage hl hc hq).turned _
  case apart =>
    intro i j client hi hj
    -- a new client is none of those there were
    rcases hs.receive_client hc hi with hold | ⟨hsender, hnew⟩ <;>
      rcases hs.receive_client hc hj with hold' | ⟨hsender', hnew'⟩
    · exact hs.apart i j client hold hold'
    · exact absurd (hs.client_lt hold) (hnew' ▸ Nat.lt_irrefl _)
    · exact absurd (hs.client_lt hold') (hnew ▸ Nat.lt_irrefl _)
    · exact Option.some.inj (hsender.symm.trans hsender')
  case signed =>
    intro l hin
    rw [receive_parties hc, answer_length]
    rw [receive_channel hc, List.append_assoc, List.singleton_append, ← hc] at hin
    exact hs.signed l hin

theorem Sound.proceed (hs : s.Sound h acts) (hl : s.status = .running) {r : Engine.Result σ Turn}
    {messages : List String} (hr : r.1.world.hub = s.hub.performAll (messages.map .notify)) :
    (s.proceed r).Sound h (acts ++ messages.map .notify) where
  hub := by rw [proceed_hub, hr, perform_all_append, ← hs.hub]
  stages := by
    intro i p hp
    rw [proceed_parties] at hp
    have hstage := hs.stages i p hp
    rw [hl] at hstage
    rw [proceed_channel]
    refine (hstage.spared_all fun a ha client _ => ?_).turned _
    obtain ⟨message, -, rfl⟩ := List.mem_map.mp ha
    exact ⟨Act.noConfusion, Act.noConfusion, Act.noConfusion⟩
  apart := by
    unfold clientOf
    rw [proceed_parties]
    exact hs.apart
  signed := by
    rw [proceed_channel, proceed_parties]
    exact hs.signed

theorem Sound.conclude (hs : s.Sound h acts) (hl : s.status = .running) {keepRunning : Bool}
    (ht : s.turn = some ⟨[], keepRunning⟩) : s.conclude.Sound h acts := by
  rw [conclude_eq hl ht]
  constructor
  case hub => exact hs.hub
  case stages =>
    intro i p hp
    have hstage := hs.stages i p hp
    rw [hl] at hstage
    have hnone : sentBy i ((Loop.settled s.engine [] keepRunning).channel.map fun ev => ⟨none, ev⟩) = [] :=
      sent_by_none i (by simp)
    rw [sent_by_append i s.channel, hnone, List.append_nil]
    exact hstage.turned _
  case apart => exact hs.apart
  case signed =>
    intro letter hin
    rw [← List.append_assoc] at hin
    rcases List.mem_append.mp hin with hin | hin
    · exact hs.signed letter hin
    · obtain ⟨ev, hev, rfl⟩ := List.mem_map.mp hin
      rw [settled_posts _ _ ev hev]
      trivial

theorem Serving.sound [FileSystem σ] {l₀ : Loop σ} (hserving : Serving l₀ s h acts) : s.Sound h acts := by
  induction hserving with
  | start hempty hforeign => exact sound_of_loop hempty hforeign
  | accept _ ih => exact ih.accept
  | deed i d _ hmay ih => exact ih.act hmay
  | post _ hev ih => exact ih.post hev
  | outside files _ ih => exact ih.change_files files
  | receive _ hl _ hc ih => exact ih.receive hl hc
  | work messages hrun ht hmessages ih =>
    rw [work_eq ht]
    exact ih.proceed (hrun.runs ht) hmessages
  | conclude hrun ht ih => exact ih.conclude (hrun.runs ht) ht

/-! ## The protocol -/

/-- What holds of the connections at every moment, given the letters that were taken and all that was done to
the hub. -/
structure Protocol [FileSystem σ] (s : Server σ) (h : List Letter) (acts : List Act) : Prop where
  history : s.hub = Hub.empty.performAll acts
  /-- No header is begun before the engine attached the connection. -/
  unregistered : ∀ (i : Nat) (p : Party), s.parties[i]? = some p → p.client = none →
    p.connection.Unregistered ∧ p.connection.written <+: Bytes.ofText Stream.notFound
  /-- Only an error leaves a refusal in part: the write that ends it has written all of it. -/
  whole : ∀ (i n : Nat) (p : Party), s.parties[i]? = some p → p.client = none →
    p.connection.phase ≠ .closed → (p.connection.write n).phase = .closed →
      (p.connection.write n).written = Bytes.ofText Stream.notFound
  /-- Then it writes the header and one frame for each message that was sent since, in their order. -/
  registered : ∀ (i : Nat) (p : Party) (client : Nat), s.parties[i]? = some p → p.client = some client →
    client < issued acts ∧ p.connection.written <+: Stream.reply (messages (since client acts)) ∧
      ∀ j, s.clientOf j = some client → j = i
  complete : ∀ (i : Nat) (p : Party) (client : Nat) (left : Bytes), s.parties[i]? = some p →
    p.connection.phase = .streaming client left → p.client = some client ∧ client ∈ s.hub.clients ∧
      p.connection.written ++ left ++ Stream.frames (p.inbox ++ s.hub.waiting client) =
        Stream.reply (messages (since client acts))
  /-- It asked once. When it has ended it gave its own number back, once. -/
  told : ∀ (i : Nat) (p : Party) (client : Nat), s.parties[i]? = some p → p.client = some client →
    sentBy i (h ++ s.channel) = .clientConnected true ::
      if p.connection.phase = ConnectionPhase.closed then [.clientDisconnected client] else []
  own : ∀ letter ∈ h ++ s.channel, ∀ client, letter.event = .clientDisconnected client →
    ∃ i, letter.sender = some i ∧ s.clientOf i = some client
  gone : ∀ letter ∈ h, ∀ client, letter.event = .clientDisconnected client → client ∉ s.hub.clients
  alone : ∀ letter rest client, s.channel = letter :: rest →
    letter.event = .clientDisconnected client → s.receive.parties = s.parties ∧
      ∀ other, other ≠ client → (other ∈ s.receive.hub.clients ↔ other ∈ s.hub.clients) ∧
        s.receive.hub.mailbox? other = s.hub.mailbox? other

variable [FileSystem σ]

theorem Serving.protocol {l₀ : Loop σ} (hserving : Serving l₀ s h acts) : s.Protocol h acts := by
  have hs := hserving.sound
  have hfollows : Follows s.hub acts := hs.hub ▸ follows_all acts
  constructor
  case history => exact hs.hub
  case unregistered =>
    intro i p hp hnone
    have hwrote := (hs.stages i p hp).unregistered hnone
    exact ⟨hwrote, hwrote.starts_refusal⟩
  case whole =>
    intro i n p hp hnone hopen hclosed
    exact ((hs.stages i p hp).unregistered hnone).writes_whole hopen hclosed
  case registered =>
    intro i p client hp hclient
    have hwrote := (hs.stages i p hp).wrote hclient
    refine ⟨hwrote.1, hwrote.2, ?_⟩
    intro j hj
    exact hs.apart j i client hj (client_of_eq_some.mpr ⟨p, hp, hclient⟩)
  case complete =>
    intro i p client left hp hphase
    rw [hs.hub]
    exact (hs.stages i p hp).complete hphase
  case told =>
    intro i p client hp hclient
    rw [sent_by_append]
    exact (hs.stages i p hp).told hclient
  case own =>
    intro letter hin client hev
    obtain ⟨i, p, hsender, hp, hclient⟩ := hs.gives_back hin hev
    exact ⟨i, hsender, client_of_eq_some.mpr ⟨p, hp, hclient⟩⟩
  case gone =>
    intro letter hin client hev hheld
    obtain ⟨i, p, hsender, hp, -⟩ := hs.gives_back (List.mem_append_left _ hin) hev
    have hhandled := mem_sent_by hin hsender
    rw [hev] at hhandled
    exact (hs.stages i p hp).gave_back hhandled ((hfollows.clients client).mp hheld).1
  case alone =>
    intro letter rest client hc hev
    have hhub : s.receive.hub = (s.hub.detach client).1 := by
      rw [receive_hub hc, hev]
      rfl
    constructor
    · obtain ⟨sender, ev⟩ := letter
      obtain rfl : ev = _ := hev
      rw [receive_parties hc]
      cases sender <;> rfl
    · intro other hne
      rw [hhub]
      simp [Hub.detach, Hub.mailbox?, hne]

/-- Any number of connections and the loop keep the protocol, in every interleaving. The turns that the loop
takes by itself are among them, if handlers only send messages. -/
theorem stream_protocol {l₀ : Loop σ} (hserving : Serving l₀ s h acts) :
    s.Protocol h acts ∧
      (l₀.engine.handlers.Notify → s.status = .running → s.turn = none →
        ∀ letter rest, s.channel = letter :: rest → ∃ s' more, Serving l₀ s' (h ++ [letter]) (acts ++ more) ∧
          s'.turn = none ∧ s'.loop = s.loop.advance ∧ s'.parties = s.answer letter) :=
  ⟨hserving.protocol, fun hh hs ht _ _ hc => hserving.turn hh hs ht hc⟩

def announcing : Loop Memory where
  engine := (Engine.quietHub.enqueue Task.reloadName [.text "app.css"]).1

/-- Two connections came. One asked for something else and was refused, the other one asked for the stream. -/
def asked : Server Memory :=
  (((ofLoop announcing).accept.accept.act 0 (.request "/live" (.complete "GET /"))).act 0 (.write 1000)).act 1
    (.request "/live" (.complete "GET /live"))

/-- The first ten bytes of a refusal are the whole of no answer and the beginning of no stream. -/
theorem refusal_written_in_part : ∃ s h acts p, Serving announcing s h acts ∧ s.parties[0]? = some p ∧
    p.connection.written = Bytes.ofText "HTTP/1.1 4" ∧
    ¬ (p.connection.written = [] ∨ p.connection.written = Bytes.ofText Stream.notFound ∨
      ∃ messages, p.connection.written <+: Stream.reply messages) := by
  have hopen : Serving announcing (.ofLoop announcing) [] [] := .start rfl (by simp [announcing])
  have hrefusing := hopen.accept.deed 0 (.request "/live" (.complete "GET /")) fun _ _ => trivial
  refine ⟨_, _, _, _, hrefusing.deed 0 (.write 10) fun _ _ => trivial, rfl, by decide +kernel, ?_⟩
  rintro (hempty | hwhole | ⟨messages, hstream⟩)
  · revert hempty
    decide +kernel
  · revert hwhole
    decide +kernel
  · -- the first ten bytes of every stream are those of the header
    have hten := List.prefix_iff_eq_take.mp hstream
    rw [Stream.reply, List.take_append_of_le_length (by decide +kernel)] at hten
    revert hten
    decide +kernel

def attached : Server Memory := (asked.receive.act 1 .hear).conclude

def announcement : Task := .new Task.reloadName [.text "app.css"]

/-- The announcement was made. The connection wrote the header and a part of the frame before the flush ended. -/
def streamed : Server Memory :=
  (((attached.receive.work.act 1 (.write 1000)).act 1 .fetch).act 1 .take).act 1 (.write 9)

def left : Server Memory := streamed.conclude.act 1 .finish

theorem left_run :
    (asked.status = .running ∧ asked.turn = none ∧
      asked.channel = [⟨some 1, .clientConnected true⟩]) ∧
    (asked.receive.act 1 .hear).turn = some ⟨[], true⟩ ∧
    (attached.status = .running ∧ attached.turn = none ∧ attached.channel = [⟨none, .flush⟩]) ∧
    attached.receive.turn = some ⟨[announcement], true⟩ ∧
    (attached.receive.engine.runTasks [announcement]).1.world.hub =
      attached.receive.hub.performAll (["app.css"].map .notify) ∧
    streamed.turn = some ⟨[], true⟩ ∧
    (∀ p ∈ streamed.conclude.parties[1]?, p.connection.phase ≠ .registering) ∧
    (left.status = .running ∧ left.turn = none ∧
      left.channel = [⟨some 1, .clientDisconnected 0⟩]) ∧
    left.receive.hub.clients = [] ∧
    left.receive.parties.map (·.connection) = [⟨.closed, Bytes.ofText Stream.notFound⟩,
      ⟨.closed, Bytes.ofText (Stream.okHeader ++ "data: app")⟩] := by
  decide +kernel

/-- The connection that was refused and the one that left, when the engine has heard of both. -/
theorem stream_protocol_left : ∃ h acts, Serving announcing left.receive h acts ∧
    left.receive.Protocol h acts ∧ left.receive.hub.clients = [] ∧
    left.receive.parties.map (·.connection) = [⟨.closed, Bytes.ofText Stream.notFound⟩,
      ⟨.closed, Bytes.ofText (Stream.okHeader ++ "data: app")⟩] ∧
    ∃ s' h' acts', Serving announcing s' h' acts' ∧ s'.loop = left.loop.advance := by
  obtain ⟨⟨hl, ht, hasks⟩, hheard, ⟨hl', ht', hflush⟩, hbatch, hsends, hdone, hphase,
    ⟨hl'', ht'', hgives⟩, hclients, hwritten⟩ := left_run
  have hopen : Serving announcing (.ofLoop announcing) [] [] := .start rfl (by simp [announcing])
  have hrefused := (hopen.accept.accept.deed 0 (.request "/live" (.complete "GET /"))
    fun _ _ => trivial).deed 0 (.write 1000) fun _ _ => trivial
  have hasked := hrefused.deed 1 (.request "/live" (.complete "GET /live")) fun _ _ => trivial
  have hattached := ((hasked.receive hl ht hasks).deed 1 .hear fun _ _ => trivial).conclude hheard
  have hsent := (hattached.receive hl' ht' hflush).work ["app.css"] hbatch hsends
  have htaken := ((hsent.deed 1 (.write 1000) fun _ _ => trivial).deed 1 .fetch
    fun _ _ => trivial).deed 1 .take fun _ _ => trivial
  have hstreamed := (htaken.deed 1 (.write 9) fun _ _ => trivial).conclude hdone
  have hleft := hstreamed.deed 1 .finish fun p hp hasking => absurd hasking (hphase p hp)
  have hgone := hleft.receive hl'' ht'' hgives
  obtain ⟨s', more, hserving, -, hloop, -⟩ :=
    (stream_protocol hleft).2 (.register_builtins .empty) hl'' ht'' _ _ hgives
  exact ⟨_, _, hgone, (stream_protocol hgone).1, hclients, hwritten, s', _, _, hserving, hloop⟩

end Server

end BundleWatch
