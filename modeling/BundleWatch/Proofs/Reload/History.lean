import BundleWatch.Reload.Hub
import Mathlib.Data.List.Induction
import Mathlib.Data.List.TakeWhile

/-!
# Histories of the hub

A history lists what was done to a hub since it was empty, by those who hold it and by its clients. All that
can be asked about a client is read off the history alone: when it was attached, whether it was detached,
whether it hung up, and which messages were sent in between.
-/

set_option autoImplicit false

namespace BundleWatch.Hub

inductive Act
  | attach
  | detach (client : Nat)
  | notify (message : String)
  | hangUp (client : Nat)
  | receive (client : Nat)
deriving DecidableEq

def perform (h : Hub) : Act → Hub
  | .attach => h.attach.1
  | .detach client => (h.detach client).1
  | .notify message => (h.notify message).1
  | .hangUp client => h.hangUp client
  | .receive client => (h.receive client).1

def performAll (h : Hub) (acts : List Act) : Hub := acts.foldl perform h

theorem perform_all_append (h : Hub) (acts more : List Act) :
    h.performAll (acts ++ more) = (h.performAll acts).performAll more :=
  List.foldl_append

def reading (client : Nat) (h : Hub) : Act → List String
  | .receive c => if c = client then (h.receive c).2.getD [] else []
  | _ => []

def received (client : Nat) (h : Hub) : List Act → List String
  | [] => []
  | a :: acts => reading client h a ++ received client (h.perform a) acts

theorem received_concat (client : Nat) (h : Hub) (acts : List Act) (a : Act) :
    received client h (acts ++ [a]) =
      received client h acts ++ reading client (h.performAll acts) a := by
  induction acts generalizing h with
  | nil => simp [received, performAll]
  | cons b acts ih => simp [received, ih, performAll]

/-! ## What a history says -/

def issued (acts : List Act) : Nat := acts.count .attach

def since (client : Nat) : List Act → List Act
  | [] => []
  | a :: acts =>
    if a = .attach then
      match client with
      | 0 => acts
      | n + 1 => since n acts
    else since client acts

def messages (acts : List Act) : List String :=
  acts.filterMap fun
    | .notify m => some m
    | _ => none

/-- The messages that were sent after a client was attached and before it was first detached. -/
def due (client : Nat) (acts : List Act) : List String :=
  messages ((since client acts).takeWhile (· ≠ .detach client))

def Subscribed (acts : List Act) (client : Nat) : Prop :=
  client < issued acts ∧ .detach client ∉ since client acts

def HungUp (acts : List Act) (client : Nat) : Prop := .hangUp client ∈ since client acts

def Missed (acts : List Act) (client : Nat) : Prop :=
  messages ((since client acts).dropWhile (· ≠ .hangUp client)) ≠ []

def Listens (acts : List Act) (client : Nat) : Prop :=
  Subscribed acts client ∧ ¬ HungUp acts client

instance (acts : List Act) (client : Nat) : Decidable (Subscribed acts client) :=
  inferInstanceAs (Decidable (_ ∧ _))

instance (acts : List Act) (client : Nat) : Decidable (HungUp acts client) :=
  inferInstanceAs (Decidable (_ ∈ _))

instance (acts : List Act) (client : Nat) : Decidable (Missed acts client) :=
  inferInstanceAs (Decidable (_ ≠ _))

instance (acts : List Act) (client : Nat) : Decidable (Listens acts client) :=
  inferInstanceAs (Decidable (_ ∧ _))

theorem issued_concat (acts : List Act) (a : Act) :
    issued (acts ++ [a]) = issued acts + if a = .attach then 1 else 0 := by
  simp [issued, List.count_singleton]

/-- A client that was not attached yet has no history, and one that was has all that follows. -/
theorem since_concat (client : Nat) (acts : List Act) (a : Act) :
    since client (acts ++ [a]) =
      if client < issued acts then since client acts ++ [a] else [] := by
  induction acts generalizing client with
  | nil => cases client <;> simp [since, issued]
  | cons b acts ih =>
    by_cases hb : b = .attach
    · subst hb
      cases client with
      | zero => simp [since, issued]
      | succ n => by_cases hn : n < acts.count .attach <;> simp [since, issued, ih, hn]
    · have hcount : issued (b :: acts) = issued acts := by simp [issued, hb]
      simp [since, hb, ih, hcount]

theorem since_later {client : Nat} {acts : List Act} (h : issued acts ≤ client) :
    since client acts = [] := by
  induction acts using List.reverseRecOn with
  | nil => rfl
  | append_singleton acts a ih =>
    rw [issued_concat] at h
    rw [since_concat, if_neg (by omega)]

theorem messages_append (acts more : List Act) :
    messages (acts ++ more) = messages acts ++ messages more :=
  List.filterMap_append

theorem messages_while_concat (client : Nat) (acts : List Act) (a : Act) :
    messages ((acts ++ [a]).takeWhile (· ≠ .detach client)) =
      messages (acts.takeWhile (· ≠ .detach client)) ++
        if .detach client ∈ acts then [] else messages [a] := by
  induction acts with
  | nil => by_cases ha : a = .detach client <;> simp [ha, messages]
  | cons b acts ih =>
    by_cases hb : b = .detach client
    · simp [hb, messages]
    · have hne : ¬ Act.detach client = b := fun h => hb h.symm
      simp only [List.cons_append, List.takeWhile_cons, hb, ne_eq, not_false_eq_true, decide_true,
        if_true, List.mem_cons, hne, false_or]
      rw [← List.singleton_append, messages_append, ih, ← List.append_assoc, ← messages_append,
        List.singleton_append]

theorem due_concat (client : Nat) (acts : List Act) (a : Act) :
    due client (acts ++ [a]) =
      due client acts ++ if Subscribed acts client then messages [a] else [] := by
  unfold due Subscribed
  rw [since_concat]
  by_cases hc : client < issued acts
  · rw [if_pos hc, messages_while_concat]
    by_cases hd : .detach client ∈ since client acts <;> simp [hc, hd]
  · simp [hc, since_later (Nat.le_of_not_lt hc), messages]

theorem hung_up_concat (client : Nat) (acts : List Act) (a : Act) :
    HungUp (acts ++ [a]) client ↔
      HungUp acts client ∨ (client < issued acts ∧ a = .hangUp client) := by
  unfold HungUp
  rw [since_concat]
  by_cases hc : client < issued acts
  · simp [hc, eq_comm]
  · simp [hc, since_later (Nat.le_of_not_lt hc)]

theorem subscribed_concat (client : Nat) (acts : List Act) (a : Act) :
    Subscribed (acts ++ [a]) client ↔
      (Subscribed acts client ∧ a ≠ .detach client) ∨ (client = issued acts ∧ a = .attach) := by
  unfold Subscribed
  rw [since_concat, issued_concat]
  by_cases hc : client < issued acts
  · have hlt : client < issued acts + if a = .attach then 1 else 0 := by omega
    have hne : client ≠ issued acts := by omega
    simp [hc, hlt, hne, eq_comm]
  · by_cases ha : a = .attach
    · subst ha
      simp [hc]
      omega
    · simp [hc, ha]

/-- Only what is sent after the client hung up is missed. -/
theorem messages_after_concat (client : Nat) (acts : List Act) (a : Act) :
    messages ((acts ++ [a]).dropWhile (· ≠ .hangUp client)) =
      messages (acts.dropWhile (· ≠ .hangUp client)) ++
        if .hangUp client ∈ acts then messages [a] else [] := by
  induction acts with
  | nil => by_cases ha : a = .hangUp client <;> simp [ha, messages]
  | cons b acts ih =>
    by_cases hb : b = .hangUp client
    · simp [hb, messages]
    · have hne : ¬ Act.hangUp client = b := fun h => hb h.symm
      simpa [hb, hne] using ih

theorem missed_concat (client : Nat) (acts : List Act) (a : Act) :
    Missed (acts ++ [a]) client ↔
      Missed acts client ∨ (HungUp acts client ∧ messages [a] ≠ []) := by
  unfold Missed HungUp
  rw [since_concat]
  by_cases hc : client < issued acts
  · rw [if_pos hc, messages_after_concat]
    by_cases hh : .hangUp client ∈ since client acts <;> simp [hh, or_iff_not_imp_left]
  · simp [hc, since_later (Nat.le_of_not_lt hc), messages]

theorem HungUp.of_missed {acts : List Act} {client : Nat} (h : Missed acts client) :
    HungUp acts client := by
  refine Decidable.byContradiction fun hh => h ?_
  have hnone : (since client acts).dropWhile (· ≠ .hangUp client) = [] := by
    refine List.dropWhile_eq_nil_iff.mpr fun a ha => decide_eq_true ?_
    rintro rfl
    exact hh ha
  rw [hnone]
  rfl

end BundleWatch.Hub
