import EntityWire.Proofs.Event.Run

namespace EntityWire.Event

variable {α : Type} {s t : SubscriberId} {log log' : List (Happening α)}

namespace Channel

variable {c c' : Channel α} {place : Nat} {events : List α} {g : Happening α}

/-- A channel that `events` were sent through. It keeps the newest ones. -/
structure Keeping (c : Channel α) (events : List α) : Prop where
  room : 0 < c.room
  sent : c.sent = events.length
  kept : c.kept = events.drop (events.length - c.room)

theorem Keeping.publish (h : c.Keeping events) (hs : c.places.isEmpty = false) (a : α) :
    (c.publish a).1.Keeping (events ++ [a]) := by
  have hk : (c.kept ++ [a]).drop ((c.kept ++ [a]).length - c.room) =
      (events ++ [a]).drop ((events ++ [a]).length - c.room) := by
    rw [h.kept, ← List.drop_append_of_le_length (Nat.sub_le _ _), List.drop_drop]
    congr 1
    simp only [List.length_drop, List.length_append, List.length_singleton]
    omega
  simp only [Channel.publish, hs]
  exact ⟨h.room, by simp [h.sent], hk⟩

theorem Keeping.receive_eq (h : c.Keeping events) (hp : c.place? s = some place)
    (hle : place ≤ events.length) : c.receive s =
      if c.room < (events.drop place).length then
        (c.moveTo s (events.length - c.room),
          .error (.lagged ((events.drop place).length - c.room)))
      else
        match events.drop place with
        | a :: _ => (c.moveTo s (place + 1), .ok (some a))
        | [] => (c, if c.isClosed then .error .closed else .ok none) := by
  have ho : c.oldest = events.length - c.room := by
    simp only [oldest, h.sent, h.kept, List.length_drop]
    omega
  have hl : (events.drop place).length = events.length - place := List.length_drop
  simp only [receive, hp, ho]
  by_cases hg : c.room < (events.drop place).length
  · rw [if_pos (by omega), if_pos hg]
    congr 3
    omega
  · rw [if_neg (by omega), if_neg hg]
    have hi : c.kept[place - (events.length - c.room)]? = events[place]? := by
      rw [h.kept, List.getElem?_drop]
      congr 1
      omega
    rw [hi, ← List.head?_drop]
    cases events.drop place <;> rfl

/-- A subscriber that stands at a place among all events: its answers account for the events from
when it joined up to its place. -/
structure Follows (s : SubscriberId) (log : List (Happening α)) (place : Nat) : Prop where
  joined : .joined s ∈ log
  place_le : place ≤ (sentEvents log).length
  read : ∃ read, eventsFor s log = read ++ (sentEvents log).drop place ∧
    Covers (answersOf s log) read

theorem Follows.unread_eq (h : Follows s log place) :
    unread s log = (sentEvents log).drop place := by
  obtain ⟨read, he, hc⟩ := h.read
  rw [unread, hc.length_eq, he, List.drop_left]

theorem Follows.frame (h : Follows s log place) (hs : sentEvents log' = [])
    (ha : answersTo s log' = []) : Follows s (log ++ log') place := by
  obtain ⟨read, he, hc⟩ := h.read
  refine ⟨List.mem_append_left _ h.joined, ?_, read, ?_, ?_⟩
  · simpa [hs] using h.place_le
  · simpa [eventsFor, since_append h.joined, hs] using he
  · simpa [answersOf, since_append h.joined, ha] using hc

theorem Follows.publish (h : Follows s log place) (a : α) (n : Nat) :
    Follows s (log ++ [.published a (.ok n)]) place := by
  have hs : sentEvents [.published a (.ok n)] = [a] := rfl
  obtain ⟨read, he, hc⟩ := h.read
  refine ⟨List.mem_append_left _ h.joined, ?_, read, ?_, ?_⟩
  · rw [sentEvents_append, List.length_append]
    exact Nat.le_add_right_of_le h.place_le
  · rw [eventsFor, since_append h.joined, sentEvents_append, sentEvents_append, hs,
      List.drop_append_of_le_length h.place_le, ← List.append_assoc, ← he]
    rfl
  · have ha : answersTo s [.published a (.ok n)] = [] := rfl
    rw [answersOf, since_append h.joined, answersTo_append, ha, List.append_nil]
    exact hc

theorem follows_joined (h : .joined s ∉ log) :
    Follows s (log ++ [.joined s]) (sentEvents log).length := by
  have hs : sentEvents (log ++ [.joined s]) = sentEvents log :=
    sentEvents_quiet rfl log
  refine ⟨List.mem_append_right _ List.mem_cons_self, ?_, [], ?_, ?_⟩
  · exact Nat.le_of_eq (congrArg List.length hs.symm)
  · rw [hs, eventsFor, since_joined h, List.drop_length]
    rfl
  · rw [answersOf, since_joined h]
    rfl

theorem Follows.receive (h : Follows s log place) {answer : Except ChannelError (Option α)}
    {taken : List α} {place' : Nat}
    (ht : (sentEvents log).drop place = taken ++ (sentEvents log).drop place')
    (hle : place' ≤ (sentEvents log).length) (hc : Covers [answer] taken) :
    Follows s (log ++ [.received s answer]) place' := by
  have hs : sentEvents (log ++ [.received s answer]) = sentEvents log :=
    sentEvents_quiet rfl log
  have ha : answersTo s [.received s answer] = [answer] := by simp [answersTo]
  obtain ⟨read, he, hr⟩ := h.read
  refine ⟨List.mem_append_left _ h.joined, by rw [hs]; exact hle, read ++ taken, ?_, ?_⟩
  · rw [hs, List.append_assoc, ← ht, ← he, eventsFor, since_append h.joined, sentEvents_append]
    simp [sentEvents, eventsFor]
  · rw [answersOf, since_append h.joined, answersTo_append, ha]
    exact covers_append hr hc

/-- What a run comes to: the newest events are kept, and every subscriber follows them. -/
structure Recorded (c : Channel α) (log : List (Happening α)) : Prop where
  keeping : c.Keeping (sentEvents log)
  index_lt {s : SubscriberId} (h : .joined s ∈ log) : s.index < c.joined
  audience_eq : c.places.map Prod.fst = audience log
  follows {s : SubscriberId} {place : Nat} (h : c.place? s = some place) : Follows s log place

theorem create?_eq {config : ChannelConfig} (h : create? config = some c) :
    c = ⟨(max config.capacity 1).nextPowerOfTwo, 0, [], 1, 0, []⟩ := by
  unfold create? at h
  dsimp only at h
  split at h
  · exact (Option.some.inj h).symm
  · nomatch h

theorem recorded_create {config : ChannelConfig} (h : create? config = some c) :
    c.Recorded [] := by
  have hr : 0 < (max config.capacity 1).nextPowerOfTwo :=
    Nat.pos_of_isPowerOfTwo (Nat.isPowerOfTwo_nextPowerOfTwo _)
  rw [create?_eq h]
  exact ⟨⟨hr, rfl, List.drop_nil.symm⟩, nofun, rfl, nofun⟩

theorem Recorded.stay (h : c.Recorded log) (hk : c'.Keeping (sentEvents (log ++ [g])))
    (hj : c'.joined = c.joined) (hm : c'.places.map Prod.fst = c.places.map Prod.fst)
    (hin : ∀ s, g ≠ .joined s) (hout : ∀ s, g ≠ .left s)
    (hf : ∀ s place, c'.place? s = some place → Follows s (log ++ [g]) place) :
    c'.Recorded (log ++ [g]) := by
  refine ⟨hk, ?_, ?_, fun hp ↦ hf _ _ hp⟩
  · intro s hs
    rw [hj]
    refine h.index_lt ((List.mem_append.1 hs).resolve_right fun hg ↦ ?_)
    exact hin s (List.mem_singleton.1 hg).symm
  · rw [hm, h.audience_eq, audience_concat]
    cases g with
    | joined s => exact absurd rfl (hin s)
    | left s => exact absurd rfl (hout s)
    | published | received | publisherAdded | publisherDropped => rfl

theorem Recorded.publish (h : c.Recorded log) (a : α) :
    (c.publish a).1.Recorded (log ++ [.published a (c.publish a).2]) := by
  cases hs : c.places.isEmpty with
  | true =>
    have he : c.publish a = (c, .error .noSubscribers) := if_pos hs
    have hl : sentEvents (log ++ [.published a (.error .noSubscribers)]) = sentEvents log :=
      sentEvents_quiet rfl log
    rw [he]
    refine h.stay (hl ▸ h.keeping) rfl rfl nofun nofun ?_
    intro s place hp
    exact (h.follows hp).frame rfl rfl
  | false =>
    have ha : (c.publish a).2 = .ok c.subscriberCount := by simp [Channel.publish, hs]
    have hl : sentEvents (log ++ [.published a (.ok c.subscriberCount)]) =
        sentEvents log ++ [a] := by simp [sentEvents]
    have hj : (c.publish a).1.joined = c.joined := by simp [Channel.publish, hs]
    have hm : (c.publish a).1.places = c.places := by simp [Channel.publish, hs]
    rw [ha]
    refine h.stay (hl ▸ h.keeping.publish hs a) hj (by rw [hm]) nofun nofun ?_
    intro s place hp
    rw [place?_publish] at hp
    exact (h.follows hp).publish a _

theorem Recorded.subscribe (h : c.Recorded log) :
    c.subscribe.1.Recorded (log ++ [.joined c.subscribe.2]) := by
  have hl : sentEvents (log ++ [.joined c.subscribe.2]) = sentEvents log :=
    sentEvents_quiet rfl log
  have hn : .joined c.subscribe.2 ∉ log := fun hm ↦ Nat.lt_irrefl _ (h.index_lt hm)
  refine ⟨⟨h.keeping.room, hl ▸ h.keeping.sent, hl ▸ h.keeping.kept⟩, ?_, ?_, ?_⟩
  · intro s hm
    change s.index < c.joined + 1
    obtain hm | hm := List.mem_append.1 hm
    · exact Nat.lt_succ_of_lt (h.index_lt hm)
    · obtain ⟨rfl⟩ := List.mem_singleton.1 hm
      exact Nat.lt_succ_self _
  · rw [audience_concat, ← h.audience_eq]
    exact List.map_append
  · intro s place hp
    rw [place?_subscribe] at hp
    -- a place that is there already is found before the new one
    cases ho : c.place? s with
    | some old =>
      obtain rfl : old = place := by simpa [ho] using hp
      exact (h.follows ho).frame rfl rfl
    | none =>
      simp only [ho, Option.none_or, Option.ite_none_right_eq_some, Option.some.injEq] at hp
      obtain ⟨rfl, rfl⟩ := hp
      rw [h.keeping.sent]
      exact follows_joined hn

theorem Recorded.unsubscribe (h : c.Recorded log) (s : SubscriberId) :
    (c.unsubscribe s).Recorded (log ++ [.left s]) := by
  have hl : sentEvents (log ++ [.left s]) = sentEvents log :=
    sentEvents_quiet rfl log
  refine ⟨⟨h.keeping.room, hl ▸ h.keeping.sent, hl ▸ h.keeping.kept⟩, ?_, ?_, ?_⟩
  · intro t hm
    exact h.index_lt (by simpa using hm)
  · rw [audience_concat, ← h.audience_eq]
    simp only [Channel.unsubscribe, listening, List.filter_map]
    rfl
  · intro t place hp
    rw [place?_unsubscribe] at hp
    split at hp
    · nomatch hp
    · exact (h.follows hp).frame rfl rfl

theorem Recorded.answered (h : c.Recorded log) (hp : c.place? s = some place)
    (answer : Except ChannelError (Option α)) (taken : List α) (place' : Nat)
    (ht : (sentEvents log).drop place = taken ++ (sentEvents log).drop place')
    (hle : place' ≤ (sentEvents log).length) (hc : Covers [answer] taken)
    (hk : c'.Keeping (sentEvents log)) (hj : c'.joined = c.joined)
    (hm : c'.places.map Prod.fst = c.places.map Prod.fst)
    (hp' : ∀ t, c'.place? t = if t = s then some place' else c.place? t) :
    c'.Recorded (log ++ [.received s answer]) := by
  have hl : sentEvents (log ++ [.received s answer]) = sentEvents log :=
    sentEvents_quiet rfl log
  refine h.stay (hl ▸ hk) hj hm nofun nofun ?_
  intro t place'' ht'
  rw [hp'] at ht'
  by_cases hts : t = s
  · subst hts
    obtain rfl := Option.some.inj ((if_pos rfl).symm.trans ht')
    exact (h.follows hp).receive ht hle hc
  · rw [if_neg hts] at ht'
    have hst : s ≠ t := Ne.symm hts
    exact (h.follows ht').frame rfl (by simp [answersTo, hst])

theorem Recorded.moveTo (h : c.Recorded log) (hp : c.place? s = some place)
    (answer : Except ChannelError (Option α)) (taken : List α) (place' : Nat)
    (ht : (sentEvents log).drop place = taken ++ (sentEvents log).drop place')
    (hle : place' ≤ (sentEvents log).length) (hc : Covers [answer] taken) :
    (c.moveTo s place').Recorded (log ++ [.received s answer]) := by
  have hk : (c.moveTo s place').Keeping (sentEvents log) :=
    ⟨h.keeping.room, h.keeping.sent, h.keeping.kept⟩
  have hm : (c.moveTo s place').places.map Prod.fst = c.places.map Prod.fst := by
    simp only [Channel.moveTo, List.map_map, List.map_inj_left, Function.comp_apply]
    intro p _
    split
    · next hs => exact hs.symm
    · rfl
  refine h.answered hp answer taken place' ht hle hc hk rfl hm fun t ↦ ?_
  rw [place?_moveTo]
  split
  · next hts => rw [hts, hp, Option.map_some]
  · rfl

theorem Recorded.receive (h : c.Recorded log) (hp : c.place? s = some place) :
    (c.receive s).1.Recorded (log ++ [.received s (c.receive s).2]) := by
  have hle := (h.follows hp).place_le
  have hu : ((sentEvents log).drop place).length = (sentEvents log).length - place :=
    List.length_drop
  rw [h.keeping.receive_eq hp hle]
  -- a gap up to the oldest event kept, or the next event, or none
  by_cases hg : c.room < ((sentEvents log).drop place).length
  · rw [if_pos hg]
    have hd : (sentEvents log).length - c.room =
        place + (((sentEvents log).drop place).length - c.room) := by omega
    let gap := ((sentEvents log).drop place).take (((sentEvents log).drop place).length - c.room)
    refine h.moveTo hp _ gap _ ?_ (Nat.sub_le _ _) ⟨gap, [], (List.append_nil _).symm, ?_, rfl⟩
    · rw [hd, ← List.drop_drop, List.take_append_drop]
    · exact List.length_take_of_le (Nat.sub_le _ _)
  · rw [if_neg hg]
    cases hd : (sentEvents log).drop place with
    | cons a later =>
      refine h.moveTo hp _ [a] _ ?_ ?_ ⟨[], rfl, rfl⟩
      · rw [← List.drop_drop, hd]
        rfl
      · rw [hd, List.length_cons] at hu
        omega
    | nil =>
      refine h.answered hp _ [] place rfl hle ?_ h.keeping rfl rfl fun t ↦ ?_
      · dsimp only
        split <;> rfl
      · by_cases ht : t = s
        · rw [if_pos ht, ht, hp]
        · rw [if_neg ht]

theorem Recorded.setPublishers (h : c.Recorded log) (n : Nat) (hs : sentEvents [g] = [])
    (ha : ∀ s, answersTo s [g] = []) (hin : ∀ s, g ≠ .joined s) (hout : ∀ s, g ≠ .left s) :
    ({ c with publishers := n } : Channel α).Recorded (log ++ [g]) := by
  have hl : sentEvents (log ++ [g]) = sentEvents log := sentEvents_quiet hs log
  refine h.stay ⟨h.keeping.room, hl ▸ h.keeping.sent, hl ▸ h.keeping.kept⟩ rfl rfl hin hout ?_
  intro s place hp
  exact (h.follows hp).frame hs (ha s)

theorem Recorded.step (h : c.Recorded log) (hs : c.Step g c') : c'.Recorded (log ++ [g]) := by
  cases hs with
  | publish _ a => exact h.publish a
  | subscribe => exact h.subscribe
  | receive hs =>
    obtain ⟨place, hp⟩ := hs
    exact h.receive hp
  | unsubscribe => exact h.unsubscribe _
  | addPublisher => exact h.setPublishers _ rfl (fun _ ↦ rfl) nofun nofun
  | dropPublisher => exact h.setPublishers _ rfl (fun _ ↦ rfl) nofun nofun

theorem Run.recorded (h : c.Run log' c') (hc : c.Recorded log) : c'.Recorded (log ++ log') := by
  induction h with
  | nil => rwa [List.append_nil]
  | snoc _ hs ih =>
    rw [← List.append_assoc]
    exact ih.step hs

theorem Step.room_eq (h : c.Step g c') : c'.room = c.room := by
  cases h with
  | publish _ a =>
    unfold Channel.publish
    split <;> rfl
  | @receive s hs =>
    unfold Channel.receive
    repeat' split
    all_goals rfl
  | subscribe | unsubscribe | addPublisher | dropPublisher => rfl

theorem Run.room_eq (h : c.Run log c') : c'.room = c.room := by
  induction h with
  | nil => rfl
  | snoc _ hs ih => exact hs.room_eq.trans ih

end Channel

end EntityWire.Event
