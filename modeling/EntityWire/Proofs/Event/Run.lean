import EntityWire.Event.Channel
import EntityWire.Proofs.Association

namespace EntityWire.Event

variable {α : Type}

inductive Happening (α : Type)
  | published (a : α) (answer : Except ChannelError Nat)
  | joined (s : SubscriberId)
  | received (s : SubscriberId) (answer : Except ChannelError (Option α))
  | left (s : SubscriberId)
  | publisherAdded
  | publisherDropped

def sentEvents (log : List (Happening α)) : List α :=
  log.filterMap fun
    | .published a (.ok _) => some a
    | _ => none

def since (s : SubscriberId) : List (Happening α) → List (Happening α)
  | [] => []
  | .joined t :: rest => if t = s then rest else since s rest
  | _ :: rest => since s rest

def answersTo (s : SubscriberId) (log : List (Happening α)) :
    List (Except ChannelError (Option α)) :=
  log.filterMap fun
    | .received t answer => if t = s then some answer else none
    | _ => none

def delivered (answers : List (Except ChannelError (Option α))) : List α :=
  answers.filterMap fun
    | .ok a => a
    | .error _ => none

def missed : List (Except ChannelError (Option α)) → Nat
  | [] => 0
  | .error (.lagged n) :: rest => n + missed rest
  | _ :: rest => missed rest

/-- Answers that account for events, one after another: an event for itself, and a gap for as many
as it counts. -/
def Covers : List (Except ChannelError (Option α)) → List α → Prop
  | [], events => events = []
  | .ok (some a) :: rest, events => ∃ later, events = a :: later ∧ Covers rest later
  | .error (.lagged n) :: rest, events =>
    ∃ gap later, events = gap ++ later ∧ gap.length = n ∧ Covers rest later
  | _ :: rest, events => Covers rest events

def eventsFor (s : SubscriberId) (log : List (Happening α)) : List α := sentEvents (since s log)

def answersOf (s : SubscriberId) (log : List (Happening α)) :
    List (Except ChannelError (Option α)) :=
  answersTo s (since s log)

/-- The events sent since a subscriber joined that its answers do not account for. -/
def unread (s : SubscriberId) (log : List (Happening α)) : List α :=
  (eventsFor s log).drop ((delivered (answersOf s log)).length + missed (answersOf s log))

def listening (present : List SubscriberId) : Happening α → List SubscriberId
  | .joined s => present ++ [s]
  | .left s => present.filter (· ≠ s)
  | _ => present

def audience (log : List (Happening α)) : List SubscriberId := log.foldl listening []

section Histories

variable {s : SubscriberId} {log : List (Happening α)}
  {xs ys : List (Except ChannelError (Option α))} {events later : List α}

@[simp]
theorem sentEvents_append (log log' : List (Happening α)) :
    sentEvents (log ++ log') = sentEvents log ++ sentEvents log' :=
  List.filterMap_append

theorem sentEvents_quiet {g : Happening α} (h : sentEvents [g] = []) (log : List (Happening α)) :
    sentEvents (log ++ [g]) = sentEvents log := by
  rw [sentEvents_append, h, List.append_nil]

@[simp]
theorem answersTo_append (s : SubscriberId) (log log' : List (Happening α)) :
    answersTo s (log ++ log') = answersTo s log ++ answersTo s log' :=
  List.filterMap_append

@[simp]
theorem delivered_append : delivered (xs ++ ys) = delivered xs ++ delivered ys :=
  List.filterMap_append

@[simp]
theorem missed_append : missed (xs ++ ys) = missed xs + missed ys := by
  induction xs with
  | nil => exact (Nat.zero_add _).symm
  | cons x rest ih =>
    match x with
    | .error (.lagged n) => exact (congrArg (n + ·) ih).trans (Nat.add_assoc _ _ _).symm
    | .ok _ | .error .closed | .error .noSubscribers => exact ih

@[simp]
theorem delivered_event (a : α) : delivered (.ok (some a) :: xs) = a :: delivered xs := rfl

@[simp]
theorem missed_event (a : α) : missed (.ok (some a) :: xs) = missed xs := rfl

@[simp]
theorem delivered_gap (n : Nat) : delivered (.error (.lagged n) :: xs) = delivered xs := rfl

@[simp]
theorem missed_gap (n : Nat) : missed (.error (.lagged n) :: xs) = n + missed xs := rfl

theorem audience_concat (log : List (Happening α)) (g : Happening α) :
    audience (log ++ [g]) = listening (audience log) g := by
  rw [audience, List.foldl_append]
  rfl

theorem since_append (h : .joined s ∈ log) (log' : List (Happening α)) :
    since s (log ++ log') = since s log ++ log' := by
  induction log with
  | nil => nomatch h
  | cons g rest ih =>
    cases g with
    | joined t =>
      rw [List.cons_append, since, since]
      split
      · rfl
      · next ht =>
        refine ih ((List.mem_cons.1 h).resolve_left ?_)
        rintro ⟨⟩
        exact ht rfl
    | published | received | left | publisherAdded | publisherDropped =>
      exact ih ((List.mem_cons.1 h).resolve_left nofun)

theorem since_joined (h : .joined s ∉ log) : since s (log ++ [.joined s]) = [] := by
  induction log with
  | nil => exact if_pos rfl
  | cons g rest ih =>
    have hr : .joined s ∉ rest := fun hm ↦ h (List.mem_cons_of_mem g hm)
    cases g with
    | joined t =>
      have ht : t ≠ s := by
        rintro rfl
        exact h List.mem_cons_self
      rw [List.cons_append, since, if_neg ht, ih hr]
    | published | received | left | publisherAdded | publisherDropped => exact ih hr

theorem covers_append (h : Covers xs events) (h' : Covers ys later) :
    Covers (xs ++ ys) (events ++ later) := by
  induction xs generalizing events with
  | nil =>
    obtain rfl : events = [] := h
    exact h'
  | cons x rest ih =>
    cases x with
    | ok a =>
      cases a with
      | some a =>
        obtain ⟨more, rfl, hc⟩ := h
        exact ⟨more ++ later, rfl, ih hc⟩
      | none => exact ih h
    | error e =>
      cases e with
      | lagged n =>
        obtain ⟨gap, more, rfl, hn, hc⟩ := h
        exact ⟨gap, more ++ later, List.append_assoc _ _ _, hn, ih hc⟩
      | noSubscribers | closed => exact ih h

theorem Covers.length_eq (h : Covers xs events) :
    (delivered xs).length + missed xs = events.length := by
  induction xs generalizing events with
  | nil =>
    obtain rfl : events = [] := h
    rfl
  | cons x rest ih =>
    cases x with
    | ok a =>
      cases a with
      | some a =>
        obtain ⟨more, rfl, hc⟩ := h
        have hl := ih hc
        simp only [delivered_event, missed_event, List.length_cons]
        omega
      | none => simpa [delivered, missed] using ih h
    | error e =>
      cases e with
      | lagged n =>
        obtain ⟨gap, more, rfl, rfl, hc⟩ := h
        have hl := ih hc
        simp only [delivered_gap, missed_gap, List.length_append]
        omega
      | noSubscribers | closed => simpa [delivered, missed] using ih h

theorem Covers.getElem? {a : α} (h : Covers (xs ++ .ok (some a) :: ys) events) :
    events[(delivered xs).length + missed xs]? = some a := by
  induction xs generalizing events with
  | nil =>
    obtain ⟨later, rfl, -⟩ := h
    rfl
  | cons x rest ih =>
    cases x with
    | ok b =>
      cases b with
      | some b =>
        obtain ⟨later, rfl, hc⟩ := h
        rw [delivered_event, missed_event, List.length_cons, Nat.add_right_comm,
          List.getElem?_cons_succ]
        exact ih hc
      | none => simpa [delivered, missed] using ih h
    | error e =>
      cases e with
      | lagged n =>
        obtain ⟨gap, later, rfl, rfl, hc⟩ := h
        rw [delivered_gap, missed_gap, Nat.add_left_comm,
          List.getElem?_append_right (Nat.le_add_right _ _), Nat.add_sub_cancel_left]
        exact ih hc
      | noSubscribers | closed => simpa [delivered, missed] using ih h

end Histories

namespace Channel

def Live (c : Channel α) (s : SubscriberId) : Prop := ∃ place, c.place? s = some place

/-- One call. Only a publisher can publish, subscribe others, or make or drop a publisher, and only
a subscriber that has not left can receive or leave. -/
inductive Step (c : Channel α) : Happening α → Channel α → Prop
  | publish (hp : 0 < c.publishers) (a : α) :
    Step c (.published a (c.publish a).2) (c.publish a).1
  | subscribe (hp : 0 < c.publishers) : Step c (.joined c.subscribe.2) c.subscribe.1
  | receive {s : SubscriberId} (hs : c.Live s) : Step c (.received s (c.receive s).2) (c.receive s).1
  | unsubscribe {s : SubscriberId} (hs : c.Live s) : Step c (.left s) (c.unsubscribe s)
  | addPublisher (hp : 0 < c.publishers) : Step c .publisherAdded c.addPublisher
  | dropPublisher (hp : 0 < c.publishers) : Step c .publisherDropped c.dropPublisher

inductive Run (c : Channel α) : List (Happening α) → Channel α → Prop
  | nil : Run c [] c
  | snoc {log : List (Happening α)} {c' c'' : Channel α} {h : Happening α} (hr : Run c log c')
      (hs : Step c' h c'') : Run c (log ++ [h]) c''

section Places

variable (c : Channel α) (s t : SubscriberId)

@[simp]
theorem place?_publish (a : α) : (c.publish a).1.place? s = c.place? s := by
  unfold publish
  split <;> rfl

@[simp]
theorem place?_subscribe : c.subscribe.1.place? s =
    (c.place? s).or (if s = ⟨c.joined⟩ then some c.sent else none) := by
  rw [place?, subscribe, List.lookup_append, lookup_cons_ite]
  rfl

@[simp]
theorem place?_unsubscribe :
    (c.unsubscribe t).place? s = if s = t then none else c.place? s :=
  lookup_filter_ne c.places t s

@[simp]
theorem place?_moveTo (place : Nat) : (c.moveTo t place).place? s =
    if s = t then (c.place? s).map fun _ ↦ place else c.place? s :=
  lookup_map_ite c.places t s place

end Places

end Channel

end EntityWire.Event
