import EntityWire.Proofs.Event.Reading

namespace EntityWire.Event

variable {α : Type} {s s' : SubscriberId} {log log' : List (Happening α)} {g : Happening α}

inductive Notice (α : Type)
  | published (a : α)
  | asked
  | closed

def counted (publishers : Nat) : Happening α → Nat
  | .publisherAdded => publishers + 1
  | .publisherDropped => publishers - 1
  | _ => publishers

def publishersAfter (log : List (Happening α)) : Nat := log.foldl counted 1

def noticed (s : SubscriberId) (publishers : Nat) : Happening α → Option (Notice α)
  | .published a _ => some (.published a)
  | .received t _ => if t = s then some .asked else none
  | .publisherDropped => if publishers = 1 then some .closed else none
  | _ => none

def viewFrom (s : SubscriberId) (publishers : Nat) : List (Happening α) → List (Notice α)
  | [] => []
  | g :: rest => (noticed s publishers g).toList ++ viewFrom s (counted publishers g) rest

def before (s : SubscriberId) (log : List (Happening α)) : List (Happening α) :=
  log.take (log.length - (since s log).length)

/-- What a subscriber notices since it joined, in order. -/
def view (s : SubscriberId) (log : List (Happening α)) : List (Notice α) :=
  viewFrom s (publishersAfter (before s log)) (since s log)

section Views

theorem publishersAfter_concat (log : List (Happening α)) (g : Happening α) :
    publishersAfter (log ++ [g]) = counted (publishersAfter log) g := by
  rw [publishersAfter, List.foldl_append]
  rfl

theorem viewFrom_append (n : Nat) (log log' : List (Happening α)) :
    viewFrom s n (log ++ log') = viewFrom s n log ++ viewFrom s (log.foldl counted n) log' := by
  induction log generalizing n with
  | nil => rfl
  | cons g rest ih =>
    rw [List.cons_append, viewFrom, viewFrom, ih, List.append_assoc, List.foldl_cons]

theorem since_suffix (s : SubscriberId) (log : List (Happening α)) : since s log <:+ log := by
  induction log with
  | nil => exact List.suffix_refl _
  | cons g rest ih =>
    have hr : since s rest <:+ g :: rest := ih.trans (List.suffix_cons g rest)
    cases g with
    | joined t =>
      rw [since]
      split
      · exact List.suffix_cons _ rest
      · exact hr
    | published | received | left | publisherAdded | publisherDropped => exact hr

theorem before_append_since (s : SubscriberId) (log : List (Happening α)) :
    before s log ++ since s log = log :=
  List.suffix_iff_eq_append.1 (since_suffix s log)

theorem view_concat (h : .joined s ∈ log) (g : Happening α) :
    view s (log ++ [g]) = view s log ++ (noticed s (publishersAfter log) g).toList := by
  have hb : before s (log ++ [g]) = before s log := by
    have hl : (since s log).length ≤ log.length := (since_suffix s log).length_le
    rw [before, before, since_append h, List.length_append, List.length_append,
      Nat.add_sub_add_right, List.take_append_of_le_length (Nat.sub_le _ _)]
  have hp : (since s log).foldl counted (publishersAfter (before s log)) = publishersAfter log := by
    rw [publishersAfter, ← List.foldl_append, before_append_since]
    rfl
  rw [view, view, hb, since_append h, viewFrom_append, hp, viewFrom, viewFrom, List.append_nil]

theorem view_joined (h : .joined s ∉ log) : view s (log ++ [.joined s]) = [] := by
  rw [view, since_joined h]
  rfl

end Views

def stillUnread (room : Nat) (unread : List α) : List α :=
  if room < unread.length then unread.drop (unread.length - room) else unread.tail

/-- A subscriber with a channel for itself, and what it was answered. -/
structure Lone (α : Type) where
  unread : List α := []
  closed : Bool := false
  answers : List (Except ChannelError (Option α)) := []

namespace Lone

def notice (room : Nat) (l : Lone α) : Notice α → Lone α
  | .published a => { l with unread := l.unread ++ [a] }
  | .asked =>
    { l with
      unread := stillUnread room l.unread
      answers := l.answers ++ [answerFor room l.closed l.unread] }
  | .closed => { l with closed := true }

def after (room : Nat) (view : List (Notice α)) : Lone α := view.foldl (notice room) {}

theorem after_append (room : Nat) (v w : List (Notice α)) :
    after room (v ++ w) = w.foldl (notice room) (after room v) :=
  List.foldl_append

end Lone

namespace Channel

variable {c c' start : Channel α} {room : Nat}

theorem Step.publishers_eq (h : c.Step g c') : c'.publishers = counted c.publishers g := by
  cases h with
  | publish _ a =>
    unfold Channel.publish
    split <;> rfl
  | @receive s hs =>
    unfold Channel.receive
    repeat' split
    all_goals rfl
  | subscribe | unsubscribe | addPublisher | dropPublisher => rfl

theorem unread_answered (h : .joined s ∈ log) (closed : Bool) :
    unread s (log ++ [.received s (answerFor room closed (unread s log))]) =
      stillUnread room (unread s log) := by
  rw [unread_received h]
  unfold stillUnread answerFor
  split
  · exact congrArg (List.drop · _) (Nat.zero_add _)
  · cases hu : unread s log with
    | nil => cases closed <;> rfl
    | cons a later => rfl

/-- A subscriber among others and one with a channel for itself: their answers are the same, and as
long as the first one stays, so is all that the next answer depends on. -/
structure Resembles (c : Channel α) (s : SubscriberId) (log : List (Happening α)) (l : Lone α) :
    Prop where
  answers : answersOf s log = l.answers
  unread (h : c.Live s) : Event.unread s log = l.unread
  closed (h : c.Live s) : c.isClosed = l.closed

theorem resembles_joined (hs : .joined s ∉ log) (hp : 0 < c.publishers) :
    c.Resembles s (log ++ [.joined s]) {} := by
  refine ⟨?_, fun _ ↦ ?_, fun _ ↦ ?_⟩
  · rw [answersOf, since_joined hs]
    rfl
  · rw [Event.unread, eventsFor, since_joined hs]
    exact List.drop_nil
  · exact decide_eq_false (Nat.ne_of_gt hp)

theorem Resembles.frame {l : Lone α} (h : c.Resembles s log l) (hr : c.Recorded log)
    (hj : .joined s ∈ log) (hl : c'.Live s → c.Live s) (hs : sentEvents [g] = [])
    (ha : answersTo s [g] = []) (hc : c'.isClosed = c.isClosed) :
    c'.Resembles s (log ++ [g]) l := by
  refine ⟨?_, fun hl' ↦ ?_, fun hl' ↦ hc.trans (h.closed (hl hl'))⟩
  · rw [answersOf, since_append hj, answersTo_append, ha, List.append_nil]
    exact h.answers
  · obtain ⟨place, hp⟩ := hl hl'
    rw [(hr.follows hp).unread_append ha, hs, List.append_nil]
    exact h.unread (hl hl')

theorem Recorded.live_of_step (h : c.Recorded log) (hj : .joined s ∈ log) (hs : c.Step g c')
    (hl : c'.Live s) : c.Live s := by
  rw [(h.step hs).live_iff, audience_concat] at hl
  rw [h.live_iff]
  cases hs with
  | subscribe =>
    obtain hl | hl := List.mem_append.1 hl
    · exact hl
    · obtain rfl := List.mem_singleton.1 hl
      exact absurd (h.index_lt hj) (Nat.lt_irrefl _)
  | unsubscribe => exact (List.mem_filter.1 hl).1
  | publish | receive | addPublisher | dropPublisher => exact hl

theorem Resembles.publish {l : Lone α} (h : c.Resembles s log l) (hr : c.Recorded log)
    (hj : .joined s ∈ log) (a : α) :
    (c.publish a).1.Resembles s (log ++ [.published a (c.publish a).2])
      (l.notice c.room (.published a)) := by
  have hl : (c.publish a).1.Live s → c.Live s := by
    intro hl
    rwa [Live, place?_publish] at hl
  refine ⟨?_, fun hl' ↦ ?_, fun hl' ↦ ?_⟩
  · rw [answersOf, since_append hj, answersTo_append]
    exact (List.append_nil _).trans h.answers
  · -- somebody listens, so the event is sent
    obtain ⟨place, hp⟩ := hl hl'
    have he : c.places.isEmpty = false := by
      cases he : c.places with
      | nil => simp [place?, he] at hp
      | cons p rest => rfl
    have ha : (c.publish a).2 = .ok c.subscriberCount := by simp [Channel.publish, he]
    rw [ha, (hr.follows hp).unread_append rfl, h.unread ⟨place, hp⟩]
    rfl
  · have hc : (c.publish a).1.isClosed = c.isClosed := by
      unfold Channel.publish
      split <;> rfl
    exact hc.trans (h.closed (hl hl'))

theorem isClosed_receive (c : Channel α) (s : SubscriberId) :
    (c.receive s).1.isClosed = c.isClosed := by
  unfold Channel.receive
  repeat' split
  all_goals rfl

theorem Resembles.receive {l : Lone α} (h : c.Resembles s log l) (hr : c.Recorded log)
    (hj : .joined s ∈ log) (hl : c.Live s) :
    (c.receive s).1.Resembles s (log ++ [.received s (c.receive s).2])
      (l.notice c.room .asked) := by
  have ha : (c.receive s).2 = answerFor c.room l.closed l.unread := by
    rw [hr.receive_snd hl, h.unread hl, h.closed hl]
  refine ⟨?_, fun _ ↦ ?_, fun _ ↦ ?_⟩
  · have hs : answersTo s [Happening.received s (c.receive s).2] = [(c.receive s).2] := by
      simp [answersTo]
    rw [answersOf, since_append hj, answersTo_append, hs, ha]
    exact congrArg (· ++ _) h.answers
  · rw [hr.receive_snd hl, unread_answered hj, h.unread hl]
    rfl
  · exact (isClosed_receive c s).trans (h.closed hl)

theorem Resembles.step {l : Lone α} (h : c.Resembles s log l) (hr : c.Recorded log)
    (hn : c.publishers = publishersAfter log) (hj : .joined s ∈ log) (hs : c.Step g c') :
    c'.Resembles s (log ++ [g])
      ((noticed s (publishersAfter log) g).toList.foldl (Lone.notice c.room) l) := by
  have hl := hr.live_of_step hj hs
  -- Besides the publications and its own readings, a subscriber notices only that the last
  -- publisher leaves.
  cases hs with
  | publish _ a => exact h.publish hr hj a
  | @receive t ht =>
    by_cases hts : t = s
    · subst hts
      rw [noticed, if_pos rfl]
      exact h.receive hr hj ht
    · rw [noticed, if_neg hts]
      refine h.frame hr hj hl rfl ?_ (isClosed_receive c t)
      simp [answersTo, hts]
  | subscribe | unsubscribe => exact h.frame hr hj hl rfl rfl rfl
  | addPublisher hp =>
    refine h.frame hr hj hl rfl rfl ?_
    simp only [isClosed, Channel.addPublisher, Nat.ne_of_gt hp, Nat.succ_ne_zero]
  | dropPublisher hp =>
    rw [noticed, ← hn]
    split
    · next hlast =>
      have hf : c.Resembles s (log ++ [.publisherDropped]) l := h.frame hr hj id rfl rfl rfl
      have hclosed : c.dropPublisher.isClosed = true := by
        simp [isClosed, Channel.dropPublisher, hlast]
      exact ⟨hf.answers, fun hl' ↦ hf.unread (hl hl'), fun _ ↦ hclosed⟩
    · next hmore =>
      refine h.frame hr hj hl rfl rfl ?_
      have hd : c.publishers - 1 ≠ 0 := by omega
      simp only [isClosed, Channel.dropPublisher, hd, Nat.ne_of_gt hp]

theorem Run.publishers_eq {config : ChannelConfig} (hc : create? config = some start)
    (h : start.Run log c) : c.publishers = publishersAfter log := by
  induction h with
  | nil =>
    rw [create?_eq hc]
    rfl
  | snoc _ hs ih => rw [hs.publishers_eq, ih, publishersAfter_concat]

/-- In any run a subscriber fares as one with a channel for itself to which the view is played. -/
theorem Run.resembles {config : ChannelConfig} (hc : create? config = some start)
    (h : start.Run log c) (hj : .joined s ∈ log) :
    c.Resembles s log (Lone.after start.room (view s log)) := by
  induction h with
  | nil => nomatch hj
  | @snoc log c c' g hr hs ih =>
    have hrec : c.Recorded log := by simpa using hr.recorded (recorded_create hc)
    by_cases hm : .joined s ∈ log
    · rw [view_concat hm, Lone.after_append, ← hr.room_eq]
      have hl := ih hm
      rw [← hr.room_eq] at hl
      exact hl.step hrec (hr.publishers_eq hc) hm hs
    · obtain rfl : g = .joined s := by simpa [hm, eq_comm] using hj
      rw [view_joined hm]
      cases hs with
      | subscribe hp => exact resembles_joined hm hp

/-- A subscriber gets the same answers in all runs in which it has the same view, whatever happened
before it joined and whatever the others do. -/
theorem answers_follow_from_view {config : ChannelConfig} (hc : create? config = some start)
    (hr : start.Run log c) (hr' : start.Run log' c') (hs : .joined s ∈ log)
    (hs' : .joined s' ∈ log') (hv : view s log = view s' log') :
    answersOf s log = answersOf s' log' := by
  rw [(hr.resembles hc hs).answers, (hr'.resembles hc hs').answers, hv]

/-- A subscriber that is alone and falls behind. -/
def aloneRun : List (Happening Event) :=
  [.joined ⟨0⟩, .published (toggle true) (.ok 1), .published (toggle false) (.ok 1),
    .received ⟨0⟩ (.error (.lagged 1)), .publisherDropped]

/-- The same for one that comes second, while the first one reads and leaves. -/
def crowdedRun : List (Happening Event) :=
  [.joined ⟨0⟩, .published (toggle false) (.ok 1), .joined ⟨1⟩,
    .received ⟨0⟩ (.ok (some (toggle false))), .published (toggle true) (.ok 2), .left ⟨0⟩,
    .published (toggle false) (.ok 1), .received ⟨1⟩ (.error (.lagged 1)), .publisherDropped]

theorem alone_and_crowded_answer_alike : ∃ start c c' : Channel Event,
    create? ⟨1⟩ = some start ∧ start.Run aloneRun c ∧ start.Run crowdedRun c' ∧
      .joined ⟨0⟩ ∈ aloneRun ∧ .joined ⟨1⟩ ∈ crowdedRun ∧
      view ⟨0⟩ aloneRun = view ⟨1⟩ crowdedRun ∧
      answersOf ⟨0⟩ aloneRun = answersOf ⟨1⟩ crowdedRun := by
  let start : Channel Event := ⟨1, 0, [], 1, 0, []⟩
  have hroom : Nat.nextPowerOfTwo 1 = 1 := by decide +kernel
  have hc : create? ⟨1⟩ = some start := by simp [create?, capacityLimit, hroom, start]
  have one : 0 < 1 := Nat.one_pos
  have hr : start.Run aloneRun ⟨1, 2, [toggle false], 0, 1, [(⟨0⟩, 1)]⟩ := by
    have h₀ : start.Run [] start := .nil
    have h₁ : start.Run _ ⟨1, 0, [], 1, 1, [(⟨0⟩, 0)]⟩ := h₀.snoc (.subscribe one)
    have h₂ : start.Run _ ⟨1, 1, [toggle true], 1, 1, [(⟨0⟩, 0)]⟩ := h₁.snoc (.publish one _)
    have h₃ : start.Run _ ⟨1, 2, [toggle false], 1, 1, [(⟨0⟩, 0)]⟩ := h₂.snoc (.publish one _)
    have h₄ : start.Run _ ⟨1, 2, [toggle false], 1, 1, [(⟨0⟩, 1)]⟩ :=
      h₃.snoc (.receive (s := ⟨0⟩) ⟨0, rfl⟩)
    exact h₄.snoc (.dropPublisher one)
  have hr' : start.Run crowdedRun ⟨1, 3, [toggle false], 0, 2, [(⟨1⟩, 2)]⟩ := by
    have h₀ : start.Run [] start := .nil
    have h₁ : start.Run _ ⟨1, 0, [], 1, 1, [(⟨0⟩, 0)]⟩ := h₀.snoc (.subscribe one)
    have h₂ : start.Run _ ⟨1, 1, [toggle false], 1, 1, [(⟨0⟩, 0)]⟩ := h₁.snoc (.publish one _)
    have h₃ : start.Run _ ⟨1, 1, [toggle false], 1, 2, [(⟨0⟩, 0), (⟨1⟩, 1)]⟩ :=
      h₂.snoc (.subscribe one)
    have h₄ : start.Run _ ⟨1, 1, [toggle false], 1, 2, [(⟨0⟩, 1), (⟨1⟩, 1)]⟩ :=
      h₃.snoc (.receive (s := ⟨0⟩) ⟨0, rfl⟩)
    have h₅ : start.Run _ ⟨1, 2, [toggle true], 1, 2, [(⟨0⟩, 1), (⟨1⟩, 1)]⟩ :=
      h₄.snoc (.publish one _)
    have h₆ : start.Run _ ⟨1, 2, [toggle true], 1, 2, [(⟨1⟩, 1)]⟩ :=
      h₅.snoc (.unsubscribe (s := ⟨0⟩) ⟨1, rfl⟩)
    have h₇ : start.Run _ ⟨1, 3, [toggle false], 1, 2, [(⟨1⟩, 1)]⟩ := h₆.snoc (.publish one _)
    have h₈ : start.Run _ ⟨1, 3, [toggle false], 1, 2, [(⟨1⟩, 2)]⟩ :=
      h₇.snoc (.receive (s := ⟨1⟩) ⟨1, rfl⟩)
    exact h₈.snoc (.dropPublisher one)
  have hs : .joined ⟨0⟩ ∈ aloneRun := List.mem_cons_self
  have hs' : .joined ⟨1⟩ ∈ crowdedRun := by simp [crowdedRun]
  have hv : view ⟨0⟩ aloneRun = view ⟨1⟩ crowdedRun := rfl
  exact ⟨_, _, _, hc, hr, hr', hs, hs', hv, answers_follow_from_view hc hr hr' hs hs' hv⟩

end Channel

end EntityWire.Event
