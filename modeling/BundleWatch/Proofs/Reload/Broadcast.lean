import BundleWatch.Proofs.Reload.History
import Mathlib.Data.List.Nodup

/-!
# Broadcast

The hub agrees with its history after any sequence of acts: it holds the clients that were attached, were
not detached, and missed no message, and it gave every client that is still there what was sent to it, each
message once and in order.
-/

set_option autoImplicit false

namespace BundleWatch.Hub

def waiting (h : Hub) (client : Nat) : List String :=
  ((h.mailbox? client).map (·.waiting)).getD []

theorem mailbox?_update (h : Hub) (client other : Nat) (f : Mailbox → Mailbox) :
    (h.update client f).mailbox? other =
      if client = other then (h.mailbox? other).map f else h.mailbox? other := by
  simp only [update, mailbox?, List.getElem?_modify]
  split <;> simp

theorem deliver_all (message : String) (cs : List Nat) (h : Hub) (hcs : cs.Nodup) (client : Nat) :
    (cs.foldl (fun h c => h.deliver message c) h).mailbox? client =
      if client ∈ cs then (h.mailbox? client).map fun b => { b with waiting := b.waiting ++ [message] }
      else h.mailbox? client := by
  induction cs generalizing h with
  | nil => simp
  | cons c cs ih =>
    obtain ⟨hc, hcs⟩ := List.nodup_cons.mp hcs
    rw [List.foldl_cons, ih _ hcs, deliver, mailbox?_update]
    by_cases heq : client = c
    · subst heq
      simp [hc]
    · simp [heq, Ne.symm heq]

theorem deliver_all_length (message : String) (cs : List Nat) (h : Hub) :
    (cs.foldl (fun h c => h.deliver message c) h).mailboxes.length = h.mailboxes.length := by
  induction cs generalizing h with
  | nil => rfl
  | cons c cs ih =>
    rw [List.foldl_cons, ih]
    simp [deliver, update]

theorem mailbox?_notify (h : Hub) (hclients : h.clients.Nodup) (message : String) (client : Nat) :
    (h.notify message).1.mailbox? client =
      if client ∈ h.clients ∧ h.isOpen client then
        (h.mailbox? client).map fun b => { b with waiting := b.waiting ++ [message] }
      else h.mailbox? client := by
  change (List.foldl _ h (h.clients.filter h.isOpen)).mailbox? client = _
  rw [deliver_all _ _ _ (hclients.filter _)]
  simp

theorem is_open_update (h : Hub) (client other : Nat) (f : Mailbox → Mailbox)
    (hf : ∀ b, (f b).hungUp = b.hungUp) : (h.update client f).isOpen other = h.isOpen other := by
  simp only [isOpen, mailbox?_update]
  split <;> simp [Function.comp_def, hf]

theorem is_open_deliver_all (message : String) (cs : List Nat) (h : Hub) (client : Nat) :
    (cs.foldl (fun h c => h.deliver message c) h).isOpen client = h.isOpen client := by
  induction cs generalizing h with
  | nil => rfl
  | cons c cs ih =>
    rw [List.foldl_cons, ih, deliver]
    exact is_open_update h c client _ fun b => rfl

theorem is_open_hang_up (h : Hub) (client other : Nat) :
    (h.hangUp client).isOpen other = (h.isOpen other && client ≠ other) := by
  simp only [isOpen, hangUp, mailbox?_update]
  by_cases hc : client = other
  · rcases h.mailbox? other with _ | b <;> simp [hc]
  · simp [hc]

theorem is_open_attach (h : Hub) (client : Nat) :
    h.attach.1.isOpen client = (h.isOpen client || client = h.mailboxes.length) := by
  simp only [isOpen, attach, mailbox?]
  rcases Nat.lt_trichotomy client h.mailboxes.length with hlt | rfl | hgt
  · simp [List.getElem?_append_left hlt, Nat.ne_of_lt hlt]
  · simp
  · have hnone : (h.mailboxes ++ [⟨[], false⟩])[client]? = none :=
      List.getElem?_eq_none (by simp; omega)
    simp [hnone, Nat.ne_of_gt hgt, Nat.le_of_lt hgt]

theorem receive_open {h : Hub} {client : Nat} (ho : h.isOpen client = true) :
    h.receive client =
      (h.update client fun b => { b with waiting := [] }, some (h.waiting client)) := by
  unfold receive waiting
  unfold isOpen at ho
  rcases hb : h.mailbox? client with _ | b
  · simp [hb] at ho
  · have hopen : b.hungUp = false := by simpa [hb] using ho
    simp [hopen]

theorem receive_closed {h : Hub} {client : Nat} (ho : h.isOpen client = false) :
    h.receive client = (h, none) := by
  unfold receive
  unfold isOpen at ho
  rcases hb : h.mailbox? client with _ | b
  · rfl
  · have hclosed : b.hungUp = true := by simpa [hb] using ho
    simp [hclosed]

theorem is_open_notify (h : Hub) (message : String) (client : Nat) :
    (h.notify message).1.isOpen client = h.isOpen client :=
  is_open_deliver_all message _ h client

/-- Messages wait, in the order in which they were sent, for the clients that are attached and did not
hang up, and for no one else. -/
theorem mailbox?_notify_all (ms : List String) (h : Hub) (hclients : h.clients.Nodup) (client : Nat) :
    (h.performAll (ms.map .notify)).mailbox? client =
      if client ∈ h.clients ∧ h.isOpen client then
        (h.mailbox? client).map fun b => { b with waiting := b.waiting ++ ms }
      else h.mailbox? client := by
  induction ms generalizing h with
  | nil => simp [performAll]
  | cons m ms ih =>
    have hkept : client ∈ (h.notify m).1.clients ∧ (h.notify m).1.isOpen client ↔
        client ∈ h.clients ∧ h.isOpen client := by
      rw [is_open_notify]
      simp [Hub.notify]
    change ((h.notify m).1.performAll (ms.map .notify)).mailbox? client = _
    rw [ih _ (hclients.filter _), mailbox?_notify h hclients]
    simp only [hkept]
    split
    · simp [Function.comp_def]
    · rfl

/-! ## The hub and its history -/

structure Follows (h : Hub) (acts : List Act) : Prop where
  count : h.mailboxes.length = issued acts
  nodup : h.clients.Nodup
  clients : ∀ c, c ∈ h.clients ↔ Subscribed acts c ∧ ¬ Missed acts c
  isOpen : ∀ c, h.isOpen c = true ↔ c < issued acts ∧ ¬ HungUp acts c

theorem follows_empty : Follows .empty [] where
  count := rfl
  nodup := List.nodup_nil
  clients c := by simp [empty, Subscribed, issued]
  isOpen c := by simp [Hub.isOpen, mailbox?, empty, issued]

theorem Follows.client_lt {h : Hub} {acts : List Act} (hf : Follows h acts) {c : Nat}
    (hc : c ∈ h.clients) : c < issued acts :=
  ((hf.clients c).mp hc).1.1

theorem Follows.attach {h : Hub} {acts : List Act} (hf : Follows h acts) :
    Follows (h.perform .attach) (acts ++ [.attach]) where
  count := by simp [Hub.perform, Hub.attach, issued_concat, hf.count]
  nodup := by
    refine List.nodup_append'.mpr ⟨hf.nodup, List.nodup_singleton _, ?_⟩
    intro c hc hnew
    have hlt := hf.client_lt hc
    rw [List.mem_singleton.mp hnew, hf.count] at hlt
    exact Nat.lt_irrefl _ hlt
  clients c := by
    have hnew : ¬ Missed acts (issued acts) := by
      simp [Missed, since_later (Nat.le_refl _), messages]
    rw [subscribed_concat, missed_concat]
    simp only [Hub.perform, Hub.attach, List.mem_append, List.mem_singleton, hf.clients, hf.count]
    by_cases hc : c = issued acts
    · simp [hc, hnew, messages]
    · simp [hc, messages]
  isOpen c := by
    rw [hung_up_concat, issued_concat]
    simp only [Hub.perform, is_open_attach, Bool.or_eq_true, decide_eq_true_eq, hf.isOpen, hf.count]
    by_cases hc : c = issued acts
    · simp [hc, HungUp, since_later (Nat.le_refl _)]
    · have hlt : c < issued acts + 1 ↔ c < issued acts := by omega
      simp [hc, hlt]

theorem Follows.detach {h : Hub} {acts : List Act} (hf : Follows h acts) (client : Nat) :
    Follows (h.perform (.detach client)) (acts ++ [.detach client]) where
  count := by simp [Hub.perform, Hub.detach, issued_concat, hf.count]
  nodup := hf.nodup.filter _
  clients c := by
    rw [subscribed_concat, missed_concat]
    simp only [Hub.perform, Hub.detach, List.mem_filter, hf.clients]
    by_cases hc : c = client
    · simp [hc]
    · simp [hc, messages, Ne.symm hc]
  isOpen c := by
    rw [hung_up_concat, issued_concat]
    change h.isOpen c = true ↔ _
    simpa using hf.isOpen c

theorem Follows.notify {h : Hub} {acts : List Act} (hf : Follows h acts) (message : String) :
    Follows (h.perform (.notify message)) (acts ++ [.notify message]) where
  count := by
    rw [issued_concat, ← hf.count]
    exact deliver_all_length message _ h
  nodup := hf.nodup.filter _
  clients c := by
    have hmissed : Missed acts c → HungUp acts c := .of_missed
    rw [subscribed_concat, missed_concat]
    simp only [Hub.perform, Hub.notify, List.mem_filter, hf.clients, hf.isOpen]
    simp only [messages, ne_eq, reduceCtorEq, not_false_eq_true, and_true,
      and_false, or_false]
    constructor
    · rintro ⟨⟨hs, -⟩, -, hh⟩
      exact ⟨hs, fun hm => hm.elim (fun hm => hh (hmissed hm)) fun hm => hh hm.1⟩
    · rintro ⟨hs, hm⟩
      refine ⟨⟨hs, fun h => hm (.inl h)⟩, hs.1, fun hh => hm (.inr ⟨hh, ?_⟩)⟩
      simp
  isOpen c := by
    rw [hung_up_concat, issued_concat]
    have ho := is_open_deliver_all message (h.clients.filter h.isOpen) h c
    change Hub.isOpen (List.foldl _ h _) c = true ↔ _
    rw [ho, hf.isOpen]
    simp

theorem Follows.hang_up {h : Hub} {acts : List Act} (hf : Follows h acts) (client : Nat) :
    Follows (h.perform (.hangUp client)) (acts ++ [.hangUp client]) where
  count := by simp [Hub.perform, Hub.hangUp, update, issued_concat, hf.count]
  nodup := hf.nodup
  clients c := by
    rw [subscribed_concat, missed_concat]
    change c ∈ h.clients ↔ _
    simpa [messages] using hf.clients c
  isOpen c := by
    rw [hung_up_concat, issued_concat]
    simp only [Hub.perform, is_open_hang_up, Bool.and_eq_true, decide_eq_true_eq, hf.isOpen]
    by_cases hc : client = c
    · simp only [hc, ne_eq, not_true_eq_false, and_false, and_true, reduceCtorEq, if_false,
        Nat.add_zero, false_iff, not_and, not_not]
      exact fun hlt => .inr hlt
    · simp [hc]

theorem Follows.receive {h : Hub} {acts : List Act} (hf : Follows h acts) (client : Nat) :
    Follows (h.perform (.receive client)) (acts ++ [.receive client]) := by
  have hsame : ∀ c, Subscribed (acts ++ [.receive client]) c = Subscribed acts c ∧
      Missed (acts ++ [.receive client]) c = Missed acts c ∧
      HungUp (acts ++ [.receive client]) c = HungUp acts c := by
    intro c
    simp [subscribed_concat, missed_concat, hung_up_concat, messages]
  have hissued : issued (acts ++ [.receive client]) = issued acts := by simp [issued_concat]
  cases ho : h.isOpen client with
  | false =>
    constructor <;> simp only [Hub.perform, receive_closed ho, hsame, hissued]
    exacts [hf.count, hf.nodup, hf.clients, hf.isOpen]
  | true =>
    constructor <;> simp only [Hub.perform, receive_open ho, hsame, hissued]
    · simpa [update] using hf.count
    · exact hf.nodup
    · exact hf.clients
    · intro c
      have hkept := is_open_update h client c (fun b => { b with waiting := [] }) fun b => rfl
      rw [hkept]
      exact hf.isOpen c

theorem Follows.perform {h : Hub} {acts : List Act} (hf : Follows h acts) (a : Act) :
    Follows (h.perform a) (acts ++ [a]) := by
  cases a with
  | attach => exact hf.attach
  | detach client => exact hf.detach client
  | notify message => exact hf.notify message
  | hangUp client => exact hf.hang_up client
  | receive client => exact hf.receive client

theorem follows_all (acts : List Act) : Follows (empty.performAll acts) acts := by
  induction acts using List.reverseRecOn with
  | nil => exact follows_empty
  | append_singleton acts a ih =>
    rw [perform_all_append]
    exact ih.perform a

/-! ## Deliveries -/

theorem waiting_update (h : Hub) (client other : Nat) (f : Mailbox → Mailbox)
    (hne : client ≠ other) : (h.update client f).waiting other = h.waiting other := by
  simp [waiting, mailbox?_update, hne]

/-- A client that does not hang up keeps all it had, read or not, and gets a message if one is sent that
reaches it. -/
theorem waiting_perform {h : Hub} (hclients : h.clients.Nodup) {client : Nat} {a : Act}
    (ha : a = .hangUp client → h.mailbox? client = none) :
    reading client h a ++ (h.perform a).waiting client =
      h.waiting client ++ if client ∈ h.clients ∧ h.isOpen client then messages [a] else [] := by
  cases a with
  | attach =>
    have hnew : h.attach.1.waiting client = h.waiting client := by
      simp only [waiting, attach, mailbox?]
      rcases Nat.lt_or_ge client h.mailboxes.length with hlt | hge
      · rw [List.getElem?_append_left hlt]
      · rw [List.getElem?_append_right hge, List.getElem?_eq_none hge]
        rcases client - h.mailboxes.length with _ | n <;> rfl
    simp [reading, perform, hnew, messages]
  | detach c => simp [reading, perform, detach, waiting, mailbox?, messages]
  | notify m =>
    simp only [reading, perform, waiting, mailbox?_notify h hclients, List.nil_append]
    split
    · next hreached =>
      have ho := hreached.2
      unfold isOpen at ho
      rcases hb : h.mailbox? client with _ | b
      · simp [hb] at ho
      · simp [messages]
    · simp
  | hangUp c =>
    by_cases heq : c = client
    · simp [reading, perform, hangUp, waiting, mailbox?_update, ha (heq ▸ rfl), messages]
    · simp [reading, perform, hangUp, waiting_update _ _ _ _ heq, messages]
  | receive c =>
    by_cases heq : c = client
    · subst heq
      cases ho : h.isOpen c with
      | false => simp [reading, perform, receive_closed ho]
      | true =>
        have hemptied : (h.update c fun b => { b with waiting := [] }).waiting c = [] := by
          simp only [waiting, mailbox?_update, if_true]
          rcases h.mailbox? c with _ | b <;> rfl
        simp [reading, perform, receive_open ho, hemptied, messages]
    · have hkept : (h.receive c).1.waiting client = h.waiting client := by
        cases ho : h.isOpen c with
        | false => rw [receive_closed ho]
        | true => rw [receive_open ho, waiting_update _ _ _ _ heq]
      simp [reading, perform, heq, hkept, messages]

/-- What an open client has read, and what waits for it, are the messages that were due to it. -/
theorem received_waiting {acts : List Act} {client : Nat} (hopen : ¬ HungUp acts client) :
    received client .empty acts ++ (empty.performAll acts).waiting client = due client acts := by
  induction acts using List.reverseRecOn with
  | nil => rfl
  | append_singleton acts a ih =>
    rw [hung_up_concat, not_or] at hopen
    obtain ⟨hopen, hstays⟩ := hopen
    have hf := follows_all acts
    rw [received_concat, perform_all_append, due_concat, ← ih hopen]
    have hreached : client ∈ (empty.performAll acts).clients ∧
        (empty.performAll acts).isOpen client ↔ Subscribed acts client := by
      rw [hf.clients, hf.isOpen]
      constructor
      · exact fun h => h.1.1
      · exact fun h => ⟨⟨h, fun hm => hopen (.of_missed hm)⟩, h.1, hopen⟩
    have hlate : a = .hangUp client → (empty.performAll acts).mailbox? client = none := by
      intro ha
      have hge : issued acts ≤ client := Nat.le_of_not_lt fun hlt => hstays ⟨hlt, ha⟩
      exact List.getElem?_eq_none (hf.count ▸ hge)
    have hstep := waiting_perform hf.nodup hlate
    simp only [hreached] at hstep
    rw [List.append_assoc, List.append_assoc, ← hstep]
    rfl

/-- What a history says of every client, and what the hub that it led to answers. -/
structure Lawful (h : Hub) (acts : List Act) : Prop where
  /-- A client that did not hang up has received, or will find in its mailbox, what was due to it. -/
  delivered : ∀ client, ¬ HungUp acts client →
    received client .empty acts ++ h.waiting client = due client acts
  reached : ∀ message, (h.notify message).2 =
    ((List.range (issued acts)).filter fun client => Listens acts client).length
  /-- It makes the hub forget those that hung up, and no others. -/
  forgotten : ∀ message client, client ∈ (h.notify message).1.clients ↔
    client ∈ h.clients ∧ ¬ HungUp acts client
  numbered : h.attach.2 = issued acts ∧
    ∀ later, h.attach.2 < ((h.perform .attach).performAll later).attach.2
  detached : ∀ client, (h.detach client).2 = true ↔ Subscribed acts client ∧ ¬ Missed acts client
  detachedOnce : ∀ client, (h.detach client).2 = true → ∀ later,
    (((h.perform (.detach client)).performAll later).detach client).2 = false
  detachedAlone : ∀ client other, other ∈ (h.detach client).1.clients ↔
    other ∈ h.clients ∧ other ≠ client

theorem Follows.perform_all {h : Hub} {acts : List Act} (hf : Follows h acts) (more : List Act) :
    Follows (h.performAll more) (acts ++ more) := by
  induction more generalizing h acts with
  | nil => rwa [List.append_nil]
  | cons a more ih =>
    have hmore := ih (hf.perform a)
    rwa [List.append_assoc] at hmore

theorem issued_append (acts more : List Act) : issued (acts ++ more) = issued acts + issued more :=
  List.count_append

theorem attached_listens {h : Hub} {acts : List Act} (hf : Follows h acts) (client : Nat) :
    client ∈ h.clients ∧ h.isOpen client ↔ Listens acts client := by
  have hmissed : Missed acts client → HungUp acts client := .of_missed
  rw [hf.clients, hf.isOpen]
  constructor
  · exact fun h => ⟨h.1.1, h.2.2⟩
  · exact fun h => ⟨⟨h.1, fun hm => h.2 (hmissed hm)⟩, h.1.1, h.2⟩

theorem detach_answer {h : Hub} {acts : List Act} (hf : Follows h acts) (client : Nat) :
    (h.detach client).2 = true ↔ Subscribed acts client ∧ ¬ Missed acts client := by
  rw [← hf.clients]
  simp [Hub.detach, isAttached]

theorem detached_stays {acts : List Act} {client : Nat} (hs : client < issued acts)
    (more : List Act) : ¬ Subscribed (acts ++ .detach client :: more) client := by
  induction more using List.reverseRecOn with
  | nil =>
    rw [subscribed_concat]
    simp
  | append_singleton more a ih =>
    rw [← List.cons_append, ← List.append_assoc, subscribed_concat, issued_append]
    rintro (⟨hsub, -⟩ | ⟨heq, -⟩)
    · exact ih hsub
    · omega

theorem lawful (acts : List Act) : Lawful (empty.performAll acts) acts := by
  have hf := follows_all acts
  constructor
  · exact fun client hopen => received_waiting hopen
  · intro message
    refine List.Perm.length_eq ((List.perm_ext_iff_of_nodup (hf.nodup.filter _)
      (List.nodup_range.filter _)).mpr fun client => ?_)
    have hlistens := attached_listens hf client
    rw [List.mem_filter, List.mem_filter, hlistens, List.mem_range, decide_eq_true_eq]
    exact ⟨fun h => ⟨h.1.1, h⟩, fun h => h.2⟩
  · intro message client
    have hlt : client ∈ (empty.performAll acts).clients → client < issued acts := hf.client_lt
    simp only [Hub.notify, List.mem_filter, hf.isOpen]
    exact ⟨fun h => ⟨h.1, h.2.2⟩, fun h => ⟨h.1, hlt h.1, h.2⟩⟩
  · refine ⟨hf.count, fun later => ?_⟩
    have hlater := (hf.attach.perform_all later).count
    rw [issued_append, issued_concat] at hlater
    change (empty.performAll acts).mailboxes.length < List.length _
    rw [hlater, hf.count]
    simp
    omega
  · exact detach_answer hf
  · intro client hdone later
    have hlt := ((detach_answer hf client).mp hdone).1.1
    have hgone := detached_stays hlt later
    have hlater := (hf.detach client).perform_all later
    rw [List.append_assoc] at hlater
    exact Bool.eq_false_iff.mpr fun h => hgone ((detach_answer hlater client).mp h).1
  · intro client other
    simp [Hub.detach]

end BundleWatch.Hub
