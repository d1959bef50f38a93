import Cadence.Proofs.Broadcast.Soundness
import Mathlib.Logic.Function.Basic

/-! # Cells

The cell of an origin is its record and what its listeners were told. Taking a
registration back changes the record of its own origin and nothing else of a
dispatcher, and a fan-out that is left alone changes one cell. Changes to the
records of different origins commute.
-/

namespace Cadence.Broadcast

variable {ε : Type}

/-- The record of an origin without one of its registrations; the record goes with the last. -/
def Record.struck (record : Option (Record ε)) (id : EndpointId) : Option (Record ε) :=
  (record.map (·.released id)).filter fun r => !r.listeners.isEmpty

theorem Record.foldl_struck_none (ids : List EndpointId) :
    ids.foldl struck (none : Option (Record ε)) = none := by
  induction ids with
  | nil => rfl
  | cons id rest ih => exact ih

/-! ## Records with one of them amended -/

/-- Some records, with another one in place of the record of an origin, or none. -/
def amended (records : List (Origin × Record ε)) (origin : Origin)
    (record : Option (Record ε)) : List (Origin × Record ε) :=
  records.filterMap fun p => if p.1 = origin then record.map (p.1, ·) else some p

section Amended

variable {records : List (Origin × Record ε)} {origin other : Origin}
  {record record' : Option (Record ε)}

theorem amended_lookup (hnodup : (records.map Prod.fst).Nodup) (origin : Origin) :
    amended records origin (records.lookup origin) = records := by
  refine (List.filterMap_congr fun p hp => ?_).trans List.filterMap_some
  by_cases hp1 : p.1 = origin
  · have hfound : records.lookup origin = some p.2 :=
      (Labelled.lookup_eq_some_iff hnodup).mpr (hp1 ▸ hp)
    rw [if_pos hp1, hfound]
    rfl
  · simp [hp1]

theorem amended_amended (h : record = none → record' = none) :
    amended (amended records origin record) origin record' = amended records origin record' := by
  unfold amended
  rw [List.filterMap_filterMap]
  refine List.filterMap_congr fun p _ => ?_
  by_cases hp : p.1 = origin
  · cases record with
    | none => simp [hp, h rfl]
    | some r => simp [hp]
  · simp [hp]

/-- The records of different origins are amended in either order. -/
theorem amended_comm (hne : origin ≠ other) :
    amended (amended records origin record) other record' =
      amended (amended records other record') origin record := by
  unfold amended
  rw [List.filterMap_filterMap, List.filterMap_filterMap]
  refine List.filterMap_congr fun p _ => ?_
  by_cases hp : p.1 = origin
  · cases record <;> simp [hp, hne]
  · by_cases hp' : p.1 = other
    · cases record' <;> simp [hp', hne.symm]
    · simp [hp, hp']

theorem lookup_amended_of_ne (hne : other ≠ origin) :
    (amended records origin record).lookup other = records.lookup other := by
  induction records with
  | nil => rfl
  | cons p rest ih =>
      obtain ⟨found, r⟩ := p
      unfold amended at ih ⊢
      by_cases hp : found = origin
      · have hother : (other == origin) = false := by simpa using hne
        cases record with
        | none => simpa [List.lookup_cons, hp, hother] using ih
        | some r' => simpa [List.lookup_cons, hp, hother] using ih
      · simp [List.lookup_cons, hp, ih]

theorem lookup_amended (h : records.lookup origin = none → record = none) :
    (amended records origin record).lookup origin = record := by
  induction records with
  | nil => exact (h rfl).symm
  | cons p rest ih =>
      obtain ⟨found, r⟩ := p
      unfold amended at ih ⊢
      by_cases hp : found = origin
      · cases record with
        | none => simpa [hp] using ih fun _ => rfl
        | some r' => simp [hp]
      · have horigin : (origin == found) = false := by simpa using Ne.symm hp
        rw [List.lookup_cons, horigin] at h
        simpa [List.lookup_cons, hp, horigin] using ih h

end Amended

namespace Dispatcher

variable {d : Dispatcher ε} {origin other : Origin} {record record' : Option (Record ε)}

/-- A dispatcher with another record of an origin, or none. -/
def amend (d : Dispatcher ε) (origin : Origin) (record : Option (Record ε)) : Dispatcher ε :=
  { d with records := amended d.records origin record }

theorem record?_amend (h : d.record? origin = none → record = none) :
    (d.amend origin record).record? origin = record :=
  lookup_amended h

theorem record?_amend_of_ne (hne : other ≠ origin) :
    (d.amend origin record).record? other = d.record? other :=
  lookup_amended_of_ne hne

theorem amend_amend (h : record = none → record' = none) :
    (d.amend origin record).amend origin record' = d.amend origin record' := by
  simp [amend, amended_amended h]

theorem Sound.amend_self (h : d.Sound) (origin : Origin) :
    d.amend origin (d.record? origin) = d := by
  have hsame : amended d.records origin (d.record? origin) = d.records :=
    amended_lookup h.origins_nodup origin
  simp [amend, hsame]

/-- Taking a registration back touches the records only. -/
theorem remove_eq (d : Dispatcher ε) (r : Registration) :
    ∃ records, (d.remove r).1 = { d with records } := by
  unfold remove
  split
  next => exact ⟨d.records, rfl⟩
  next =>
    dsimp only
    split <;> exact ⟨_, rfl⟩

theorem Sound.records_remove (h : d.Sound) {r : Registration}
    (hid : r.id ∈ d.registered r.origin) :
    (d.remove r).1.records =
      amended d.records r.origin (Record.struck (d.record? r.origin) r.id) := by
  cases hrecord : d.record? r.origin with
  | none => simp [registered_of_none hrecord] at hid
  | some record =>
      rw [remove_records hrecord hid]
      unfold Record.struck amended
      split
      next hempty =>
        have horigins :
            ((d.updateRecord r.origin (·.released r.id)).records.map Prod.fst).Nodup := by
          rw [updateRecord_origins]
          exact h.origins_nodup
        rw [Labelled.eraseP_eq_filter horigins]
        unfold updateRecord
        rw [← List.filterMap_eq_filter, ← List.filterMap_eq_map, List.filterMap_filterMap]
        refine List.filterMap_congr fun p _ => ?_
        by_cases horigin : p.1 = r.origin
        · simp [horigin, Option.filter, hempty, Option.guard]
        · simp [horigin, Option.guard]
      next hlast =>
        unfold updateRecord
        rw [← List.filterMap_eq_map]
        refine List.filterMap_congr fun p hp => ?_
        by_cases horigin : p.1 = r.origin
        · have hfound := (Labelled.lookup_eq_some_iff h.origins_nodup).mpr hp
          rw [horigin] at hfound
          cases hfound.symm.trans hrecord
          simp [horigin, Option.filter, hlast]
        · simp [horigin]

theorem Sound.struck_of_not_mem (h : d.Sound) {id : EndpointId} (hid : id ∉ d.registered origin) :
    Record.struck (d.record? origin) id = d.record? origin := by
  cases hrecord : d.record? origin with
  | none => rfl
  | some record =>
      have hreleased : record.released id = record := by
        unfold Record.released
        rw [List.eraseP_of_forall_not]
        intro x hx heq
        rw [registered_of_record? hrecord] at hid
        exact hid (List.mem_map.mpr ⟨x, hx, by simpa using heq⟩)
      have hpeopled := h.peopled origin record hrecord
      simp [Record.struck, hreleased, Option.filter, hpeopled]

/-- Taking a registration back amends the record of its origin. -/
theorem Sound.remove_eq (h : d.Sound) (r : Registration) :
    (d.remove r).1 = d.amend r.origin (Record.struck (d.record? r.origin) r.id) := by
  by_cases hid : r.id ∈ d.registered r.origin
  · obtain ⟨records, hremove⟩ := d.remove_eq r
    have hrecords := h.records_remove hid
    rw [hremove] at hrecords ⊢
    exact congrArg (fun records => { d with records }) hrecords
  · rw [remove_of_not_mem hid, h.struck_of_not_mem hid, h.amend_self]

end Dispatcher

/-! ## What a fan-out does to a cell -/

/-- The record of an origin and what its listeners were told. -/
structure Cell (ε : Type) where
  record : Option (Record ε)
  told : List (EndpointId × Span)

namespace Cell

/-- The numbers registered for the origin. -/
def registered (c : Cell ε) : List EndpointId :=
  (c.record.map (·.listeners.map Prod.fst)).getD []

/-- A listener is told, and some registrations are taken back for it. -/
def tell (heed : List (EndpointId × Span) → List EndpointId) (time : Span) (c : Cell ε)
    (id : EndpointId) : Cell ε where
  record := (heed (c.told ++ [(id, time)])).foldl Record.struck c.record
  told := c.told ++ [(id, time)]

/-- A fan-out turns to some listeners one after the other, and tells those that are still
registered. -/
def visit (heed : List (EndpointId × Span) → List EndpointId) (time : Span) :
    List EndpointId → Cell ε → Cell ε
  | [], c => c
  | id :: rest, c =>
      visit heed time rest (if id ∈ c.registered then c.tell heed time id else c)

variable (heed : List (EndpointId × Span) → List EndpointId) (time : Span)
  (ids : List EndpointId) (c : Cell ε)

/-- What listeners were told is not taken back. -/
theorem length_told_le : c.told.length ≤ (c.visit heed time ids).told.length := by
  induction ids generalizing c with
  | nil => exact Nat.le_refl _
  | cons id rest ih =>
      unfold visit
      refine Nat.le_trans ?_ (ih _)
      split
      · simp [tell]
      · exact Nat.le_refl _

/-- A fan-out makes no record. -/
theorem visit_of_none (h : c.record = none) : (c.visit heed time ids).record = none := by
  induction ids generalizing c with
  | nil => exact h
  | cons id rest ih =>
      unfold visit
      apply ih
      split
      · unfold tell
        rw [h]
        exact Record.foldl_struck_none _
      · exact h

end Cell

/-- What fan-outs work on: the records, what the listeners of each origin were told, and the
counters. -/
@[ext] structure Board (ε : Type) where
  told : Origin → List (EndpointId × Span)
  records : List (Origin × Record ε)
  stats : Stats

namespace Board

def cell (b : Board ε) (origin : Origin) : Cell ε := ⟨b.records.lookup origin, b.told origin⟩

/-- The board after a scheduled fan-out that changes the cell of its origin. Without a record
it is dropped, and with one it begins. -/
def exchange (b : Board ε) (origin : Origin) (before after : Cell ε) : Board ε where
  told := Function.update b.told origin after.told
  records := amended b.records origin after.record
  stats :=
    { b.stats with
      droppedFanouts := b.stats.droppedFanouts + if before.record = none then 1 else 0
      fanouts := b.stats.fanouts + if before.record = none then 0 else 1
      notifications := b.stats.notifications + (after.told.length - before.told.length) }

variable (heed : Origin → List (EndpointId × Span) → List EndpointId) (time : Span)

/-- A scheduled fan-out turns to all that are registered when it begins. -/
def fanOut (b : Board ε) (origin : Origin) : Board ε :=
  b.exchange origin (b.cell origin)
    ((b.cell origin).visit (heed origin) time (b.cell origin).registered)

theorem exchange_comm (b : Board ε) {origin other : Origin} (hne : origin ≠ other)
    (before after before' after' : Cell ε) :
    (b.exchange origin before after).exchange other before' after' =
      (b.exchange other before' after').exchange origin before after := by
  ext1
  · exact Function.update_comm hne _ _ _
  · exact amended_comm hne
  · simp [exchange, Nat.add_right_comm]

/-- A fan-out leaves the cells of other origins alone. -/
theorem cell_fanOut_of_ne (b : Board ε) {origin other : Origin} (hne : other ≠ origin) :
    (b.fanOut heed time origin).cell other = b.cell other := by
  simp [cell, fanOut, exchange, lookup_amended_of_ne hne, Function.update_of_ne hne]

/-- Fan-outs of the same instant commute. -/
theorem fanOut_comm (b : Board ε) (origin other : Origin) :
    (b.fanOut heed time origin).fanOut heed time other =
      (b.fanOut heed time other).fanOut heed time origin := by
  by_cases hne : origin = other
  · rw [hne]
  · have hother := b.cell_fanOut_of_ne heed time (Ne.symm hne)
    have horigin := b.cell_fanOut_of_ne heed time hne
    rw [fanOut, hother, fanOut.eq_def heed time (b.fanOut heed time other), horigin]
    exact b.exchange_comm hne _ _ _ _

/-- The order of fan-outs of the same instant does not show. -/
theorem foldl_fanOut_perm (b : Board ε) {origins origins' : List Origin}
    (h : origins.Perm origins') :
    origins.foldl (fanOut heed time) b = origins'.foldl (fanOut heed time) b :=
  h.foldl_eq' (fun x _ y _ b => b.fanOut_comm heed time x y) b

end Board

end Cadence.Broadcast
