import EntityWire.Proofs.Event.Delivery
import EntityWire.Proofs.Event.Ring

namespace EntityWire.Event

variable {α : Type} {s : SubscriberId} {log more : List (Happening α)} {n : Nat}

namespace Channel

variable {c c' : Channel α} {place : Nat}

theorem Follows.unread_append (h : Follows s log place) (ha : answersTo s more = []) :
    unread s (log ++ more) = unread s log ++ sentEvents more := by
  obtain ⟨read, he, hc⟩ := h.read
  have hle : read.length ≤ (eventsFor s log).length := by
    rw [he, List.length_append]
    exact Nat.le_add_right _ _
  simp only [unread, eventsFor, answersOf, since_append h.joined, sentEvents_append,
    answersTo_append, ha, List.append_nil]
  rw [← hc.length_eq] at hle
  exact List.drop_append_of_le_length hle

theorem unread_received (h : .joined s ∈ log) (answer : Except ChannelError (Option α)) :
    unread s (log ++ [.received s answer]) =
      (unread s log).drop ((delivered [answer]).length + missed [answer]) := by
  have hs : sentEvents [Happening.received s answer] = [] := rfl
  have ha : answersTo s [Happening.received s answer] = [answer] := by simp [answersTo]
  simp only [unread, eventsFor, answersOf, since_append h, sentEvents_append, hs, List.append_nil,
    answersTo_append, ha, delivered_append, List.length_append, missed_append, List.drop_drop]
  congr 1
  omega

theorem unread_lagged (h : .joined s ∈ log) :
    unread s (log ++ [.received s (.error (.lagged n))]) = (unread s log).drop n := by
  rw [unread_received h]
  congr 1
  exact Nat.zero_add n

theorem live_iff : c.Live s ↔ s ∈ c.places.map Prod.fst := by
  rw [Live, ← Option.isSome_iff_exists, place?, List.lookup_isSome_iff, List.mem_map]
  refine exists_congr fun p ↦ and_congr_right fun _ ↦ ?_
  rw [beq_iff_eq, eq_comm]

theorem Recorded.live_iff (h : c.Recorded log) : c.Live s ↔ s ∈ audience log := by
  rw [Channel.live_iff, h.audience_eq]

theorem Recorded.count_eq (h : c.Recorded log) : c.subscriberCount = (audience log).length := by
  rw [← h.audience_eq, List.length_map]
  rfl

theorem Recorded.isEmpty_iff (h : c.Recorded log) : c.places.isEmpty ↔ audience log = [] := by
  rw [← h.audience_eq, List.map_eq_nil_iff, List.isEmpty_iff]

theorem Recorded.receive_snd (h : c.Recorded log) (hs : c.Live s) :
    (c.receive s).2 = answerFor c.room c.isClosed (unread s log) := by
  obtain ⟨place, hp⟩ := hs
  have hf := h.follows hp
  rw [h.keeping.receive_eq hp hf.place_le, hf.unread_eq]
  unfold answerFor
  split
  · rfl
  · cases (sentEvents log).drop place <;> rfl

/-- How a subscriber goes on after a gap of `n` events: the newest events are unread, and those that
were sent since. -/
structure Resumes (room : Nat) (s : SubscriberId) (log : List (Happening α)) (n : Nat)
    (more : List (Happening α)) (c : Channel α) : Prop where
  length_eq : ((unread s log).drop n).length = room
  unread_eq : unread s (log ++ .received s (.error (.lagged n)) :: more) =
    (unread s log).drop n ++ sentEvents more
  oldest (h : sentEvents more = []) :
    ∃ a, (unread s log)[n]? = some a ∧ (c.receive s).2 = .ok (some a)
  again (h : sentEvents more ≠ []) :
    (c.receive s).2 = .error (.lagged (sentEvents more).length)

/-- How a subscriber stands after a run and what it gets next, in a ring of `room` slots. -/
structure Serves (room : Nat) (s : SubscriberId) (log : List (Happening α)) (c : Channel α) :
    Prop where
  covers : ∃ read, eventsFor s log = read ++ unread s log ∧ Covers (answersOf s log) read
  position {before after : List (Except ChannelError (Option α))} {a : α}
    (h : answersOf s log = before ++ .ok (some a) :: after) :
    (eventsFor s log)[(delivered before).length + missed before]? = some a
  count : (delivered (answersOf s log)).length + missed (answersOf s log) + (unread s log).length =
    (eventsFor s log).length
  ring : (c.receive s).2 = (Ring.of room (sentEvents log)).answer c.isClosed
    ((sentEvents log).length - (unread s log).length)
  lagged (n : Nat) : (c.receive s).2 = .error (.lagged n) ↔
    room < (unread s log).length ∧ n = (unread s log).length - room
  event (a : α) : (c.receive s).2 = .ok (some a) ↔
    (unread s log).length ≤ room ∧ (unread s log).head? = some a
  nothing : (c.receive s).2 = .ok none ↔ unread s log = [] ∧ 0 < c.publishers
  closed : (c.receive s).2 = .error .closed ↔ unread s log = [] ∧ c.publishers = 0
  resumes {n : Nat} (h : (c.receive s).2 = .error (.lagged n)) {more : List (Happening α)}
    {c' : Channel α} (hr : (c.receive s).1.Run more c') (ha : answersTo s more = [])
    (hl : c'.Live s) : Resumes room s log n more c'

/-- What a channel is to all who use it. -/
structure Broadcasts (room : Nat) (log : List (Happening α)) (c : Channel α) : Prop where
  live_iff (s : SubscriberId) : c.Live s ↔ s ∈ audience log
  counted : c.subscriberCount = (audience log).length
  serves (s : SubscriberId) (h : s ∈ audience log) : Serves room s log c
  published (a : α) : (c.publish a).2 =
    if audience log = [] then .error .noSubscribers else .ok (audience log).length
  unheard (a : α) (h : audience log = []) : (c.publish a).1 = c

theorem Recorded.resumes (h : c.Recorded log) (hs : c.Live s)
    (hg : (c.receive s).2 = .error (.lagged n)) (hr : (c.receive s).1.Run more c')
    (ha : answersTo s more = []) (hl : c'.Live s) : Resumes c.room s log n more c' := by
  obtain ⟨hlt, hn⟩ := answerFor_eq_lagged.1 ((h.receive_snd hs).symm.trans hg)
  have hd : ((unread s log).drop n).length = c.room := by
    rw [List.length_drop, hn]
    omega
  have hroom : c'.room = c.room := hr.room_eq.trans (Step.receive hs).room_eq
  obtain ⟨place, hp⟩ := hs
  have hgap := h.receive hp
  rw [hg] at hgap
  have hu : unread s (log ++ .received s (.error (.lagged n)) :: more) =
      (unread s log).drop n ++ sentEvents more := by
    obtain ⟨place', hp'⟩ : (c.receive s).1.Live s := by
      rw [hgap.live_iff, audience_concat]
      exact h.live_iff.1 ⟨place, hp⟩
    rw [List.append_cons, (hgap.follows hp').unread_append ha, unread_lagged (h.follows hp).joined]
  have hnext := (hr.recorded hgap).receive_snd hl
  rw [List.append_assoc, List.singleton_append, hu, hroom] at hnext
  refine ⟨hd, hu, fun he ↦ ?_, fun hne ↦ ?_⟩
  · rw [he, List.append_nil] at hnext
    have hlt' : n < (unread s log).length := by
      have hpos := h.keeping.room
      omega
    refine ⟨(unread s log)[n], List.getElem?_eq_getElem hlt', hnext.trans ?_⟩
    rw [answerFor_eq_event, List.head?_drop]
    exact ⟨Nat.le_of_eq hd, List.getElem?_eq_getElem hlt'⟩
  · rw [hnext, answerFor_eq_lagged, List.length_append, hd]
    have hpos := List.length_pos_iff.2 hne
    omega

theorem Recorded.serves (h : c.Recorded log) (hs : c.Live s) : Serves c.room s log c := by
  have hnext := h.receive_snd hs
  obtain ⟨place, hp⟩ := hs
  have hf := h.follows hp
  obtain ⟨read, he, hc⟩ := hf.read
  rw [← hf.unread_eq] at he
  constructor
  case covers => exact ⟨read, he, hc⟩
  case position =>
    intro before after a hb
    rw [hb] at hc
    have hi := hc.getElem?
    obtain ⟨hlt, -⟩ := List.getElem?_eq_some_iff.1 hi
    rw [he, List.getElem?_append_left hlt, hi]
  case count => rw [hc.length_eq, he, List.length_append]
  case ring =>
    have hle := hf.place_le
    have hpl : (sentEvents log).length - (unread s log).length = place := by
      rw [hf.unread_eq, List.length_drop]
      omega
    have hr := (Ring.holds_of h.keeping.room (sentEvents log)).answer_eq c.isClosed hle
    rw [Ring.room_of, ← hf.unread_eq] at hr
    rw [hnext, hpl, hr]
  case lagged =>
    intro n
    rw [hnext, answerFor_eq_lagged]
  case event =>
    intro a
    rw [hnext, answerFor_eq_event]
  case nothing =>
    rw [hnext, answerFor_eq_nothing]
    simp [isClosed, Nat.pos_iff_ne_zero]
  case closed =>
    rw [hnext, answerFor_eq_closed]
    simp [isClosed]
  case resumes =>
    intro n hg more c' hr ha hl
    exact h.resumes ⟨place, hp⟩ hg hr ha hl

/-- Whatever happens, a channel delivers every event to all who had subscribed, in order, or says
how many events a subscriber missed. -/
theorem subscribers_read_the_whole_log {config : ChannelConfig} {start c : Channel α}
    {log : List (Happening α)} (hc : create? config = some start) (hr : start.Run log c) :
    Broadcasts (max config.capacity 1).nextPowerOfTwo log c := by
  have h : c.Recorded log := by simpa using hr.recorded (recorded_create hc)
  have hroom : c.room = (max config.capacity 1).nextPowerOfTwo := by
    rw [hr.room_eq, create?_eq hc]
  refine ⟨fun s ↦ h.live_iff, h.count_eq, ?_, ?_, ?_⟩
  · intro s hs
    rw [← hroom]
    exact h.serves (h.live_iff.2 hs)
  · intro a
    rw [← h.count_eq, publish]
    by_cases he : audience log = []
    · rw [if_pos (h.isEmpty_iff.2 he), if_pos he]
    · rw [if_neg (mt h.isEmpty_iff.1 he), if_neg he]
  · intro a he
    rw [publish, if_pos (h.isEmpty_iff.2 he)]

def toggle (active : Bool) : Event := .transformToggled ⟨active⟩

/-- A subscriber that lets three events pass in a channel for two. -/
def threeToggles : List (Happening Event) :=
  .joined ⟨0⟩ :: [true, false, true].map fun active ↦ .published (toggle active) (.ok 1)

theorem three_toggles_lag : ∃ start c : Channel Event, create? ⟨2⟩ = some start ∧
    start.Run threeToggles c ∧ Broadcasts 2 threeToggles c ∧
    (c.receive ⟨0⟩).2 = .error (.lagged 1) := by
  let start : Channel Event := ⟨(max 2 1).nextPowerOfTwo, 0, [], 1, 0, []⟩
  have hc : create? ⟨2⟩ = some start := rfl
  have hp : 0 < 1 := Nat.one_pos
  have hr : start.Run threeToggles _ :=
    (((Run.nil.snoc (.subscribe hp)).snoc (.publish hp (toggle true))).snoc
      (.publish hp (toggle false))).snoc (.publish hp (toggle true))
  have hroom : (max 2 1).nextPowerOfTwo = 2 := by decide +kernel
  have hb := subscribers_read_the_whole_log hc hr
  rw [hroom] at hb
  refine ⟨_, _, hc, hr, hb, ?_⟩
  exact ((hb.serves ⟨0⟩ List.mem_cons_self).lagged 1).2 ⟨by decide, rfl⟩

end Channel

end EntityWire.Event
