import Mathlib.Data.List.Perm.Basic
import Mathlib.Data.List.Perm.Subperm
import SessionHub.Proofs.Hub.Mailboxes
import SessionHub.Proofs.Hub.Numbers

set_option autoImplicit false

/-! # Deliveries in flight

From the step that looks its callback up to the step that runs it, a delivery is in flight, and the
directory may change meanwhile. The driver has at most one delivery in flight, and others may have
begun any number of them (`Hub.deliveries`).

A mailbox `m` can only be reached by a delivery in flight (`Hub.inFlightTo`) once `callback?` leads
there under no `SessionId`: such deliveries then only become fewer, and what is added to `m` is
taken from them (`added_append_inFlightTo_act`). -/

namespace SessionHub

/-- The bytes that a delivery is to put into mailbox `m`. -/
def Delivery.bytesTo (d : Delivery) (m : Nat) : List Bytes :=
  if d.found = some (.mailbox m) then [d.bytes] else []

theorem Delivery.bytesTo_eq_nil {d : Delivery} {m : Nat} :
    d.bytesTo m = [] ↔ d.found ≠ some (.mailbox m) := by
  unfold bytesTo
  split <;> simp_all

namespace Hub

variable {σ : Type}

/-- The delivery that the driver has in flight. -/
def driven (h : Hub σ) : List Delivery :=
  match h.phase with
  | .delivering d _ => [d]
  | _ => []

/-- The bytes that are in flight to mailbox `m`. -/
def inFlightTo (h : Hub σ) (m : Nat) : List Bytes :=
  h.inFlight.flatMap (·.bytesTo m)

theorem inFlight_eq (h : Hub σ) : h.inFlight = h.driven ++ h.deliveries := by
  unfold inFlight driven
  cases h.phase <;> rfl

theorem length_driven_le (h : Hub σ) : h.driven.length ≤ 1 := by
  unfold driven
  cases h.phase <;> simp

theorem driven_congr {h h' : Hub σ} (phase : h'.phase = h.phase) : h'.driven = h.driven := by
  rw [driven, phase, driven]

theorem inFlight_congr {h h' : Hub σ} (phase : h'.phase = h.phase)
    (deliveries : h'.deliveries = h.deliveries) : h'.inFlight = h.inFlight := by
  rw [inFlight_eq, inFlight_eq, driven_congr phase, deliveries]

theorem inFlightTo_eq (h : Hub σ) (m : Nat) :
    h.inFlightTo m = h.driven.flatMap (·.bytesTo m) ++ h.deliveries.flatMap (·.bytesTo m) := by
  rw [inFlightTo, inFlight_eq, List.flatMap_append]

theorem inFlightTo_eq_nil {h : Hub σ} {m : Nat} :
    h.inFlightTo m = [] ↔ ∀ d ∈ h.inFlight, d.found ≠ some (.mailbox m) := by
  simp only [inFlightTo, List.flatMap_eq_nil_iff, Delivery.bytesTo_eq_nil]

/-- Each delivery puts its bytes into at most one mailbox, and once. -/
theorem length_inFlightTo_le (h : Hub σ) (m : Nat) :
    (h.inFlightTo m).length ≤ h.deliveries.length + 1 := by
  have each : ∀ ds : List Delivery, (ds.flatMap (·.bytesTo m)).length ≤ ds.length := by
    intro ds
    induction ds with
    | nil => exact Nat.le_refl 0
    | cons d ds ih =>
      have one : (d.bytesTo m).length ≤ 1 := by
        unfold Delivery.bytesTo
        split <;> simp
      rw [List.flatMap_cons, List.length_append, List.length_cons]
      omega
  have count : h.inFlight.length = h.driven.length + h.deliveries.length := by
    rw [inFlight_eq, List.length_append]
  have own := h.length_driven_le
  exact Nat.le_trans (each h.inFlight) (by omega)

/-- Nothing will come into a mailbox again exactly if no entry of the directory leads there and
    nothing is in flight to it. -/
theorem isCutOff_iff {h : Hub σ} {m : Nat} :
    h.isCutOff m ↔ (∀ e ∈ h.directory.entries, e.2 ≠ .mailbox m) ∧ h.inFlightTo m = [] := by
  simp only [isCutOff, Bool.and_eq_true, List.all_eq_true, decide_eq_true_eq, inFlightTo_eq_nil]

/-! ## What some acts do to a mailbox -/

section Mailboxes

variable (E : Engine σ)

/-- What an act takes out of mailbox `k`. -/
def Act.taken (k : Nat) (h : Hub σ) : Act → List Bytes
  | move m => m.taken k h
  | openWith _ => []

/-- What an act adds to mailbox `k`. -/
def Act.added (k : Nat) (h : Hub σ) : Act → List Bytes
  | move m => m.added k h
  | openWith _ => []

/-- All that was handed to mailbox `k` in some acts, in order: what was taken out of it and what is
    in it at the end. -/
def handedIn (k : Nat) (h : Hub σ) (acts : List Act) : List Bytes :=
  Run.seen (act E) (fun h a => a.taken k h) h acts ++ (afterActs E h acts).unread k

/-- What some acts add to mailbox `k`, in order. -/
def addedIn (k : Nat) (h : Hub σ) (acts : List Act) : List Bytes :=
  Run.seen (act E) (fun h a => a.added k h) h acts

theorem taken_append_unread_act (h : Hub σ) (a : Act) (k : Nat) :
    a.taken k h ++ (h.act E a).unread k = h.unread k ++ a.added k h := by
  cases a with
  | move m => exact taken_append_unread E h m k
  | openWith callback => exact (List.append_nil _).symm

theorem handedIn_eq (h : Hub σ) (acts : List Act) (k : Nat) :
    handedIn E k h acts = h.unread k ++ addedIn E k h acts := by
  unfold handedIn addedIn afterActs
  induction acts generalizing h with
  | nil => exact (List.append_nil _).symm
  | cons a acts ih =>
    rw [Run.seen_cons, Run.seen_cons, Run.after_cons, List.append_assoc, ih, ← List.append_assoc,
      taken_append_unread_act, List.append_assoc]

end Mailboxes

/-! ## What is added to a mailbox is in flight to it -/

theorem delivered_sublist (h : Hub σ) (d : Delivery) (m : Nat) :
    (h.delivered d m).Sublist (d.bytesTo m) := by
  unfold delivered Delivery.bytesTo
  split
  · next leads => rw [if_pos leads.1]
  · exact List.nil_sublist _

theorem handing_sublist (h : Hub σ) (m : Nat) :
    (h.handing m).Sublist (h.driven.flatMap (·.bytesTo m)) := by
  unfold handing driven
  cases h.phase with
  | delivering d rest =>
    rw [List.flatMap_singleton]
    exact h.delivered_sublist d m
  | _ => exact List.nil_sublist _

/-! ## What an act does to deliveries in flight -/

/-- Whether an act begins or completes a delivery of others. -/
def Act.delivers : Act → Bool
  | move (.beginDelivery ..) | move (.completeDelivery _) => true
  | _ => false

theorem deliveries_send (h : Hub σ) (c : Command) : (h.send c).1.deliveries = h.deliveries := by
  unfold send
  split <;> rfl

theorem deliveries_sendFor (h : Hub σ) (k : Nat) (command : SessionId → Command) :
    (h.sendFor k command).1.deliveries = h.deliveries := by
  unfold sendFor
  split
  · rfl
  · split
    · rfl
    · exact h.deliveries_send _

theorem deliveries_close (h : Hub σ) (k : Nat) : (h.close k).deliveries = h.deliveries := by
  unfold close
  split
  · rfl
  · split
    · rfl
    · dsimp only
      split
      · exact deliveries_send _ _
      · rfl

variable (E : Engine σ)

theorem deliveries_act (h : Hub σ) {a : Act} (other : a.delivers = false) :
    (h.act E a).deliveries = h.deliveries := by
  cases a with
  | openWith callback => rfl
  | move m =>
    cases m with
    | drive => exact (h.step_frame E).deliveries
    | command c => exact h.deliveries_send c
    | request k bytes => exact h.deliveries_sendFor k _
    | poll k => exact h.deliveries_sendFor k _
    | close k => exact h.deliveries_close k
    | drop k => exact h.deliveries_close k
    | read k =>
      show (((h.read? k).map (·.2)).getD h).deliveries = h.deliveries
      unfold read?
      split <;> rfl
    | beginDelivery id bytes => cases other
    | completeDelivery i => cases other
    | _ => rfl

variable {E}

/-- A callback that is looked up under no number that leads to `m` puts nothing there. -/
theorem bytesTo_lookUp {h : Hub σ} {m : Nat}
    (unreached : ∀ id, h.directory.callback? id ≠ some (.mailbox m)) (id : SessionId)
    (bytes : Bytes) :
    (h.lookUp id bytes).bytesTo m = [] :=
  Delivery.bytesTo_eq_nil.mpr (unreached id)

/-- The delivery that the driver has in flight after a step was looked up in that step. -/
theorem bytesTo_driven_step {h : Hub σ} {m : Nat}
    (unreached : ∀ id, h.directory.callback? id ≠ some (.mailbox m)) :
    (h.step E).driven.flatMap (·.bytesTo m) = [] := by
  rw [List.flatMap_eq_nil_iff]
  intro d driven
  unfold Hub.driven at driven
  split at driven
  · next d' rest delivering =>
    obtain rfl := List.mem_singleton.mp driven
    obtain ⟨r, responses, routing⟩ := routing_of_step_delivering E delivering
    rw [step_of_routing E routing] at delivering
    cases delivering
    exact bytesTo_lookUp unreached _ _
  · cases driven

/-- A step of the driver completes the delivery that it has in flight, and begins none to a mailbox
    to which no number leads. -/
theorem inFlightTo_step {h : Hub σ} {m : Nat}
    (unreached : ∀ id, h.directory.callback? id ≠ some (.mailbox m)) :
    (h.step E).inFlightTo m = h.deliveries.flatMap (·.bytesTo m) := by
  rw [inFlightTo_eq, bytesTo_driven_step unreached, (h.step_frame E).deliveries, List.nil_append]

/-- Completing a delivery of others takes it out of flight and adds at most its bytes. -/
theorem completing_append_inFlightTo (h : Hub σ) (i m : Nat) :
    (h.completing i m ++ (h.completeDelivery i).inFlightTo m).Subperm (h.inFlightTo m) := by
  obtain ⟨mailboxes, log, completed, -, -⟩ := h.completeDelivery_eq i
  have after : (h.completeDelivery i).inFlightTo m =
      h.driven.flatMap (·.bytesTo m) ++ (h.deliveries.eraseIdx i).flatMap (·.bytesTo m) := by
    rw [completed, inFlightTo_eq]
    rfl
  rw [after, inFlightTo_eq]
  by_cases begun : i < h.deliveries.length
  · let d := h.deliveries[i]
    have added : (h.completing i m).Sublist (d.bytesTo m) := by
      rw [completing, List.getElem?_eq_getElem begun, Option.toList_some, List.flatMap_singleton]
      exact h.delivered_sublist d m
    have taken : (d.bytesTo m ++ (h.deliveries.eraseIdx i).flatMap (·.bytesTo m)).Perm
        (h.deliveries.flatMap (·.bytesTo m)) := by
      have same := (List.getElem_cons_eraseIdx_perm begun).flatMap_right (·.bytesTo m)
      rw [List.flatMap_cons] at same
      exact same
    refine (added.append_right _).subperm.trans (List.Perm.subperm ?_)
    exact (List.perm_append_comm_assoc ..).trans (taken.append_left _)
  · have past := Nat.le_of_not_lt begun
    rw [completing, List.getElem?_eq_none past, List.eraseIdx_of_length_le past]
    exact .refl _

/-- If no number leads to mailbox `m`, what an act adds to it was in flight to it, and is not any
    more. -/
theorem added_append_inFlightTo_act {h : Hub σ} {m : Nat}
    (unreached : ∀ id, h.directory.callback? id ≠ some (.mailbox m)) (a : Act) :
    (a.added m h ++ (h.act E a).inFlightTo m).Subperm (h.inFlightTo m) := by
  have kept : ∀ a : Act, a ≠ .move .drive → a.delivers = false → a.added m h = [] →
      (a.added m h ++ (h.act E a).inFlightTo m).Subperm (h.inFlightTo m) := by
    intro a outside other nothing
    have phase := (queued_act E h outside).phase
    rw [nothing, inFlightTo, inFlight_congr phase (deliveries_act E h other)]
    exact .refl _
  cases a with
  | openWith callback => exact kept _ (by simp) rfl rfl
  | move move =>
    cases move with
    | drive =>
      show (h.handing m ++ (h.step E).inFlightTo m).Subperm _
      rw [inFlightTo_step unreached, inFlightTo_eq]
      exact ((h.handing_sublist m).append_right _).subperm
    | beginDelivery id bytes =>
      have after : (h.beginDelivery id bytes).inFlightTo m = h.inFlightTo m := by
        rw [inFlightTo_eq, inFlightTo_eq]
        show h.driven.flatMap _ ++ (h.deliveries ++ [h.lookUp id bytes]).flatMap _ = _
        rw [List.flatMap_append, List.flatMap_singleton, bytesTo_lookUp unreached, List.append_nil]
      exact after ▸ .refl _
    | completeDelivery i => exact h.completing_append_inFlightTo i m
    | _ => exact kept _ (by simp) rfl rfl

end Hub

end SessionHub
