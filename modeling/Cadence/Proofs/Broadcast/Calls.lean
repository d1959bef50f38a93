import Cadence.Proofs.Broadcast.Soundness

/-! # Calls of a fan-out

A fan-out turns to its listeners in ascending order, so that one that is called for
notifies nobody twice, just as one that is scheduled.
-/

namespace Cadence.Broadcast

variable {ε κ : Type} {depth : Nat} {origin : Origin} {ids : List EndpointId}

/-- The listener that is notified from right above some number of frames. -/
def Outcome.told? (depth : Nat) (out : Result ε κ) : Option EndpointId :=
  if out.session.frames.length = depth + 1 then out.notification?.map Notification.id else none

theorem Outcome.told?_eq (depth : Nat) (out : Result ε κ) :
    out.told? depth = (out.reached?.filter (·.height = depth)).map Reach.id := by
  obtain ⟨⟨timers, dispatcher, standing, frames⟩, notes, signal⟩ := out
  cases signal with
  | called call =>
      cases call with
      | notify endpoint =>
          cases frames with
          | nil => simp [told?, reached?]
          | cons frame below =>
              cases frame with
              | fanning entrance origin id left =>
                  by_cases hdepth : below.length = depth <;>
                    simp [told?, notification?, reached?, Option.filter, hdepth]
              | _ => simp [told?, notification?, reached?]
      | _ => simp [told?, notification?, reached?]
  | _ => simp [told?, notification?, reached?]

namespace Session

variable {s : OnAgenda ε κ}

/-- The listeners notified from right above some number of frames, up to the moment at
which nothing is above these frames any more. -/
def told (depth : Nat) (s : OnAgenda ε κ) : List (Deed ε κ) → List EndpointId
  | [] => []
  | deed :: rest =>
      if (s.act deed).session.frames.length ≤ depth then []
      else ((s.act deed).told? depth).toList ++ (s.act deed).session.told depth rest

theorem progress_act (hfaces : Faces s.frames depth origin ids) (deed : Deed ε κ) :
    Progress s.dispatcher depth origin ids (s.act deed).session.frames (s.act deed).reached? := by
  cases deed with
  | move route m => exact progress_perform hfaces route.visit m
  | post delay work => exact stays_of_quiet rfl hfaces

/-- Of those that a fan-out has left it notifies the one that it goes on to, if it does, and
then some of those that come after. -/
theorem told_cons_sublist {deed : Deed ε κ} {d : Dispatcher ε}
    (hprogress : Progress d depth origin ids (s.act deed).session.frames (s.act deed).reached?)
    {rest : List (Deed ε κ)}
    (hrest : ∀ later, Faces (s.act deed).session.frames depth origin later →
      ((s.act deed).session.told depth rest).Sublist later) :
    (s.told depth (deed :: rest)).Sublist ids := by
  unfold told
  split
  next => exact List.nil_sublist ids
  next htall =>
    rw [Outcome.told?_eq]
    generalize (s.act deed).reached? = reached at hprogress
    cases hprogress with
    | ends short _ => exact absurd short htall
    | stays _ faces higher =>
        have hnobody : reached.filter (·.height = depth) = none := by
          refine Option.filter_eq_none_iff.mpr fun r hr => ?_
          simpa using Nat.ne_of_gt (higher r hr)
        rw [hnobody]
        exact hrest ids faces
    | goes id endpoint passed later split _ _ faces =>
        have hreached : (some (Reach.mk depth id endpoint)).filter (·.height = depth) =
            some ⟨depth, id, endpoint⟩ := by simp [Option.filter]
        rw [hreached, split]
        exact ((hrest later faces).cons_cons id).trans (List.sublist_append_right passed _)

/-- A fan-out notifies some of the listeners it has left, in their order. -/
theorem told_sublist (hfaces : Faces s.frames depth origin ids) (deeds : List (Deed ε κ)) :
    (s.told depth deeds).Sublist ids := by
  induction deeds generalizing s ids with
  | nil => exact List.nil_sublist ids
  | cons deed rest ih => exact told_cons_sublist (progress_act hfaces deed) fun _ faces => ih faces

/-- A fan-out that is called for notifies some of the listeners that were registered then,
in their order. -/
theorem told_dispatch_sublist (s : OnAgenda ε κ) (route : Route) (origin : Origin)
    (later : List (Deed ε κ)) :
    (s.told s.frames.length (.move route (.dispatch origin) :: later)).Sublist
      (s.dispatcher.registered origin) := by
  by_cases howned : s.standing = .owned
  · have hact : s.act (.move route (.dispatch origin)) =
        (s.fanOut [] .request origin : Result ε κ) := perform_dispatch howned route.visit origin
    have hprogress := s.progress_fanOut (κ := κ) [] .request origin
    rw [← hact] at hprogress
    exact told_cons_sublist hprogress fun _ faces => told_sublist faces later
  · have hrefused : (s.act (.move route (.dispatch origin)) : Result ε κ).session.frames =
        s.frames := by
      unfold act perform
      dsimp only
      rw [if_pos ⟨rfl, howned⟩]
    rw [told, hrefused, if_pos (Nat.le_refl _)]
    exact List.nil_sublist _

/-- No fan-out that is called for notifies a listener twice. -/
theorem Sound.told_dispatch_nodup (h : s.Sound) (route : Route) (origin : Origin)
    (later : List (Deed ε κ)) :
    (s.told s.frames.length (.move route (.dispatch origin) :: later)).Nodup :=
  ((h.registry.ascending origin).imp Nat.ne_of_lt).sublist
    (s.told_dispatch_sublist route origin later)

end Session

end Cadence.Broadcast
