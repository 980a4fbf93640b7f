import EntityWire.Event.Channel
import Mathlib.Logic.Function.Basic

namespace EntityWire.Event

variable {α : Type}

structure Ring (α : Type) where
  room : Nat
  sent : Nat
  slots : Nat → Option (Nat × α)

namespace Ring

def empty (room : Nat) : Ring α := ⟨room, 0, fun _ ↦ none⟩

def push (r : Ring α) (a : α) : Ring α :=
  { r with
    sent := r.sent + 1
    slots := Function.update r.slots (r.sent % r.room) (some (r.sent, a)) }

def of (room : Nat) (events : List α) : Ring α := events.foldl push (empty room)

/-- What the slots say to a subscriber whose next event has this number. A stamp that is one turn
back stands for an event that is yet to come. -/
def answer (r : Ring α) (closed : Bool) (place : Nat) : Except ChannelError (Option α) :=
  let waiting := if closed then .error .closed else .ok none
  match r.slots (place % r.room) with
  | none => waiting
  | some (stamp, a) =>
    if stamp = place then .ok (some a)
    else if stamp + r.room = place then waiting
    else .error (.lagged (r.sent - r.room - place))

end Ring

def answerFor (room : Nat) (closed : Bool) (unread : List α) : Except ChannelError (Option α) :=
  if room < unread.length then .error (.lagged (unread.length - room))
  else
    match unread with
    | a :: _ => .ok (some a)
    | [] => if closed then .error .closed else .ok none

section Answers

variable {room n : Nat} {closed : Bool} {unread : List α} {a : α}

theorem answerFor_eq_lagged : answerFor room closed unread = .error (.lagged n) ↔
    room < unread.length ∧ n = unread.length - room := by
  unfold answerFor
  split
  · next hg => simp [hg, eq_comm]
  · next hg =>
    simp only [hg, false_and, iff_false]
    cases unread with
    | nil => cases closed <;> simp
    | cons a later => simp

theorem answerFor_eq_event : answerFor room closed unread = .ok (some a) ↔
    unread.length ≤ room ∧ unread.head? = some a := by
  unfold answerFor
  split
  · next hg => simp [Nat.not_le.2 hg]
  · next hg =>
    rw [and_iff_right (Nat.not_lt.1 hg)]
    cases unread with
    | nil => cases closed <;> simp
    | cons b later => simp

theorem answerFor_eq_nothing : answerFor room closed unread = .ok none ↔
    unread = [] ∧ closed = false := by
  unfold answerFor
  split
  · next hg => simp [List.ne_nil_of_length_pos (Nat.zero_lt_of_lt hg)]
  · cases unread with
    | nil => cases closed <;> simp
    | cons b later => simp

theorem answerFor_eq_closed : answerFor room closed unread = .error .closed ↔
    unread = [] ∧ closed = true := by
  unfold answerFor
  split
  · next hg => simp [List.ne_nil_of_length_pos (Nat.zero_lt_of_lt hg)]
  · cases unread with
    | nil => cases closed <;> simp
    | cons b later => simp

end Answers

namespace Ring

variable {r : Ring α} {events : List α} {room place : Nat}

/-- A slot holds the newest event whose turn it was. -/
structure Holds (r : Ring α) (events : List α) : Prop where
  room : 0 < r.room
  sent : r.sent = events.length
  stamped {i stamp : Nat} {a : α} (h : r.slots i = some (stamp, a)) :
    stamp % r.room = i ∧ events.length ≤ stamp + r.room ∧ events[stamp]? = some a
  filled {stamp : Nat} {a : α} (h : events[stamp]? = some a)
    (hn : events.length ≤ stamp + r.room) : r.slots (stamp % r.room) = some (stamp, a)

theorem holds_empty (h : 0 < room) : (empty room : Ring α).Holds [] :=
  ⟨h, rfl, nofun, nofun⟩

theorem eq_of_mod_eq {m n : Nat} (h : m % room = n % room) (hle : m ≤ n) (hlt : n < m + room) :
    m = n := by
  have hd : room ∣ n - m := Nat.dvd_of_mod_eq_zero (Nat.sub_mod_eq_zero_of_mod_eq h.symm)
  have hz : n - m = 0 := Nat.eq_zero_of_dvd_of_lt hd (by omega)
  omega

theorem Holds.push (h : r.Holds events) (a : α) : (r.push a).Holds (events ++ [a]) := by
  refine ⟨h.room, ?_, ?_, ?_⟩
  · simp [Ring.push, h.sent]
  · intro i stamp b hi
    rw [List.length_append, List.length_singleton]
    change stamp % r.room = i ∧ _ ≤ stamp + r.room ∧ _
    by_cases hs : i = r.sent % r.room
    · simp only [Ring.push, hs, Function.update_self, Option.some.injEq, Prod.mk.injEq] at hi
      obtain ⟨rfl, rfl⟩ := hi
      have hr := h.room
      refine ⟨hs.symm, by rw [h.sent]; omega, ?_⟩
      rw [h.sent, List.getElem?_concat_length]
    · simp only [Ring.push, Function.update_of_ne hs] at hi
      obtain ⟨hm, hn, hb⟩ := h.stamped hi
      obtain ⟨hlt, -⟩ := List.getElem?_eq_some_iff.1 hb
      refine ⟨hm, ?_, by rw [List.getElem?_append_left hlt]; exact hb⟩
      -- a stamp a whole turn back is in the slot of the new event
      have hne : stamp + r.room ≠ events.length := by
        intro he
        refine hs ?_
        rw [← hm, h.sent, ← he, Nat.add_mod_right]
      omega
  · intro stamp b hb hn
    rw [List.length_append, List.length_singleton] at hn
    change _ ≤ stamp + r.room at hn
    change Function.update r.slots (r.sent % r.room) (some (r.sent, a)) (stamp % r.room) = _
    obtain ⟨hlt, -⟩ := List.getElem?_eq_some_iff.1 hb
    rw [List.length_append, List.length_singleton] at hlt
    by_cases he : stamp = events.length
    · subst he
      rw [List.getElem?_concat_length] at hb
      rw [h.sent, Function.update_self, Option.some.inj hb]
    · have hold : stamp < events.length := by omega
      have hs : stamp % r.room ≠ r.sent % r.room := by
        rw [h.sent]
        intro hm
        exact he (eq_of_mod_eq hm (Nat.le_of_lt hold) (by omega))
      rw [Function.update_of_ne hs]
      rw [List.getElem?_append_left hold] at hb
      exact h.filled hb (by omega)

theorem Holds.pushes (h : r.Holds events) (more : List α) :
    (more.foldl Ring.push r).Holds (events ++ more) := by
  induction more generalizing r events with
  | nil => simpa using h
  | cons a more ih => simpa using ih (h.push a)

theorem holds_of (h : 0 < room) (events : List α) : (of room events).Holds events :=
  (holds_empty h).pushes events

theorem room_of (room : Nat) (events : List α) : (of room events).room = room := by
  have hf (r : Ring α) : (events.foldl push r).room = r.room := by
    induction events generalizing r with
    | nil => rfl
    | cons a events ih => exact ih (r.push a)
  exact hf (empty room)

theorem exists_newest (hr : 0 < room) (place sent : Nat) (h : place + room < sent) :
    ∃ stamp, place < stamp ∧ stamp < sent ∧ sent ≤ stamp + room ∧ stamp % room = place % room := by
  have hd := Nat.div_add_mod (sent - 1 - place) room
  have hm := Nat.mod_lt (sent - 1 - place) hr
  have hq : 0 < (sent - 1 - place) / room := Nat.div_pos (by omega) hr
  have hle : room ≤ room * ((sent - 1 - place) / room) := Nat.le_mul_of_pos_right room hq
  refine ⟨place + room * ((sent - 1 - place) / room), ?_, ?_, ?_, Nat.add_mul_mod_self_left _ _ _⟩
  all_goals omega

/-- The slots answer as the list of all events would. -/
theorem Holds.answer_eq (h : r.Holds events) (closed : Bool) (hle : place ≤ events.length) :
    r.answer closed place = answerFor r.room closed (events.drop place) := by
  have hl : (events.drop place).length = events.length - place := List.length_drop
  have hr := h.room
  unfold answerFor
  -- Either the slot was written over, or it holds the next event, or nothing is unread and it holds
  -- an event of the turn before, if any.
  by_cases hg : r.room < (events.drop place).length
  -- What stands in the slot is the newest event whose place falls on it.
  · obtain ⟨stamp, hp, hlt, hn, hm⟩ := exists_newest hr place events.length (by omega)
    obtain ⟨a, ha⟩ : ∃ a, events[stamp]? = some a := ⟨_, List.getElem?_eq_getElem hlt⟩
    have hs := h.filled ha hn
    rw [hm] at hs
    rw [if_pos hg, answer, hs]
    dsimp only
    rw [if_neg (by omega), if_neg (by omega), h.sent]
    congr 2
    omega
  · rw [if_neg hg]
    cases hd : events.drop place with
    | cons a later =>
      have ha : events[place]? = some a := by rw [← List.head?_drop, hd]; rfl
      rw [answer, h.filled ha (by omega)]
      exact if_pos rfl
    | nil =>
      have hp : place = events.length := by
        rw [hd, List.length_nil] at hl
        omega
      unfold answer
      cases hs : r.slots (place % r.room) with
      | none => rfl
      | some held =>
        obtain ⟨stamp, a⟩ := held
        obtain ⟨hm, hn, hb⟩ := h.stamped hs
        obtain ⟨hlt, -⟩ := List.getElem?_eq_some_iff.1 hb
        have hs : place % r.room = (stamp + r.room) % r.room := by rw [Nat.add_mod_right, hm]
        have ht : place = stamp + r.room := eq_of_mod_eq hs (by omega) (by omega)
        dsimp only
        rw [if_neg (by omega), if_pos ht.symm]

end Ring

end EntityWire.Event
