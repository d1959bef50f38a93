import Cadence.Broadcast.Dispatcher
import Cadence.Proofs.Labelled

/-! # The registry of listeners

The records of a dispatcher are found by their origins. A registration number is
handed out once and stays with its origin; a listener that leaves takes its
number out of the registry for good, and a record lives from its first listener
to its last with the delay that was drawn for it.
-/

namespace Cadence.Broadcast

/-- A record with one more listener. -/
def Record.enrolled {ε : Type} (r : Record ε) (id : EndpointId) (endpoint : ε) : Record ε :=
  { r with listeners := r.listeners ++ [(id, endpoint)] }

/-- A record with one listener less. -/
def Record.released {ε : Type} (r : Record ε) (id : EndpointId) : Record ε :=
  { r with listeners := r.listeners.eraseP (·.1 = id) }

namespace Dispatcher

variable {ε : Type} {d d' : Dispatcher ε}

/-- The numbers registered for an origin, in ascending order. -/
def registered (d : Dispatcher ε) (origin : Origin) : List EndpointId :=
  ((d.record? origin).map (·.listeners.map Prod.fst)).getD []

/-- The registry, the next number and the next ticket are as they were. -/
structure Kept (d d' : Dispatcher ε) : Prop where
  records : d'.records = d.records
  nextEndpoint : d'.nextEndpoint = d.nextEndpoint
  nextTicket : d'.nextTicket = d.nextTicket

theorem Kept.refl (d : Dispatcher ε) : d.Kept d := ⟨rfl, rfl, rfl⟩

theorem Kept.countNotification (h : d.Kept d') : d.Kept d'.countNotification :=
  ⟨h.records, h.nextEndpoint, h.nextTicket⟩

theorem record?_congr (h : d'.records = d.records) (origin : Origin) :
    d'.record? origin = d.record? origin := by
  unfold record?
  rw [h]

theorem registered_congr (h : d'.records = d.records) (origin : Origin) :
    d'.registered origin = d.registered origin := by
  unfold registered
  rw [record?_congr h]

theorem registered_of_record? {origin : Origin} {record : Record ε}
    (h : d.record? origin = some record) :
    d.registered origin = record.listeners.map Prod.fst := by
  simp [registered, h]

theorem registered_of_none {origin : Origin} (h : d.record? origin = none) :
    d.registered origin = [] := by
  simp [registered, h]

theorem listener?_isSome {origin : Origin} {id : EndpointId} :
    (d.listener? origin id).isSome ↔ id ∈ d.registered origin := by
  unfold listener? registered
  cases d.record? origin with
  | none => simp
  | some record => exact Labelled.lookup_isSome_iff

/-! ## Turns of a fan-out -/

/-- The listeners passed over in search of the next one are no longer registered. -/
theorem nextListener_eq_some {origin : Origin} {ids later : List EndpointId} {id : EndpointId}
    {endpoint : ε} (h : d.nextListener origin ids = some (id, endpoint, later)) :
    ∃ passed, ids = passed ++ id :: later ∧ (∀ x ∈ passed, x ∉ d.registered origin) ∧
      id ∈ d.registered origin := by
  induction ids with
  | nil => cases h
  | cons x rest ih =>
      unfold nextListener at h
      cases hx : d.listener? origin x with
      | some found =>
          rw [hx] at h
          cases h
          exact ⟨[], rfl, by simp, listener?_isSome.mp (by simp [hx])⟩
      | none =>
          rw [hx] at h
          obtain ⟨passed, rfl, hpassed, hid⟩ := ih h
          refine ⟨x :: passed, rfl, ?_, hid⟩
          intro y hy
          rcases List.mem_cons.mp hy with rfl | hy
          · rw [← listener?_isSome, hx]
            simp
          · exact hpassed y hy

/-- Whoever comes next is notified as the listener registered under that number. -/
theorem nextListener_listener? {origin : Origin} {ids later : List EndpointId} {id : EndpointId}
    {endpoint : ε} (h : d.nextListener origin ids = some (id, endpoint, later)) :
    d.listener? origin id = some endpoint := by
  induction ids with
  | nil => cases h
  | cons x rest ih =>
      unfold nextListener at h
      split at h
      next found hx =>
        cases h
        exact hx
      next => exact ih h

theorem nextListener_eq_none {origin : Origin} {ids : List EndpointId}
    (h : d.nextListener origin ids = none) : ∀ x ∈ ids, x ∉ d.registered origin := by
  induction ids with
  | nil => simp
  | cons x rest ih =>
      unfold nextListener at h
      cases hx : d.listener? origin x with
      | some found =>
          rw [hx] at h
          cases h
      | none =>
          rw [hx] at h
          intro y hy
          rcases List.mem_cons.mp hy with rfl | hy
          · rw [← listener?_isSome, hx]
            simp
          · exact ih h y hy

/-- A fan-out that begins turns to the first listener of its origin. -/
theorem nextListener_registered (d : Dispatcher ε) (origin : Origin) :
    (d.nextListener origin (d.registered origin) = none ∧ d.registered origin = []) ∨
      ∃ id endpoint later,
        d.nextListener origin (d.registered origin) = some (id, endpoint, later) ∧
        d.registered origin = id :: later := by
  cases hnext : d.nextListener origin (d.registered origin) with
  | none =>
      have hgone := nextListener_eq_none hnext
      exact .inl ⟨rfl, List.eq_nil_iff_forall_not_mem.mpr fun x hx => hgone x hx hx⟩
  | some found =>
      obtain ⟨id, endpoint, later⟩ := found
      obtain ⟨passed, hids, hpassed, _⟩ := nextListener_eq_some hnext
      refine .inr ⟨id, endpoint, later, rfl, ?_⟩
      cases passed with
      | nil => exact hids
      | cons x rest => exact absurd (hids ▸ List.mem_cons_self) (hpassed x List.mem_cons_self)

theorem startFanOut_kept (d : Dispatcher ε) (origin : Origin) (ticket : Option Ticket) :
    d.Kept (d.startFanOut origin ticket).2.1 := by
  unfold startFanOut
  cases ticket <;> dsimp only <;> split <;> exact ⟨rfl, rfl, rfl⟩

theorem startFanOut_ids (d : Dispatcher ε) (origin : Origin) (ticket : Option Ticket) :
    (d.startFanOut origin ticket).1.getD [] = d.registered origin := by
  unfold startFanOut registered record?
  cases hrecord : d.records.lookup origin <;> cases ticket <;> simp [hrecord]

/-- A scheduled fan-out is counted as begun if its origin has a record, and as dropped if
it has none. -/
theorem startFanOut_stats (d : Dispatcher ε) (origin : Origin) (ticket : Nat) :
    (d.startFanOut origin (some ticket)).2.1.stats =
      if d.record? origin = none then
        { d.stats with droppedFanouts := d.stats.droppedFanouts + 1 }
      else { d.stats with fanouts := d.stats.fanouts + 1 } := by
  unfold startFanOut record?
  cases hrecord : d.records.lookup origin <;> simp [hrecord]

/-! ## Changes of the registry -/

theorem record?_updateRecord (d : Dispatcher ε) (origin : Origin) (f : Record ε → Record ε)
    (o : Origin) :
    (d.updateRecord origin f).record? o =
      if o = origin then (d.record? o).map f else d.record? o := by
  have hmap : (d.updateRecord origin f).records =
      d.records.map fun p => (p.1, if p.1 = origin then f p.2 else p.2) := by
    apply List.map_congr_left
    intro p _
    by_cases hp : p.1 = origin <;> simp [hp]
  unfold record?
  rw [hmap, Labelled.lookup_map d.records fun q r => if q = origin then f r else r]
  by_cases ho : o = origin <;> simp [ho]

theorem updateRecord_origins (d : Dispatcher ε) (origin : Origin) (f : Record ε → Record ε) :
    (d.updateRecord origin f).records.map Prod.fst = d.records.map Prod.fst := by
  unfold updateRecord
  rw [List.map_map]
  apply List.map_congr_left
  intro p _
  by_cases hp : p.1 = origin <;> simp [hp]

theorem resolveInterval_kept (d : Dispatcher ε) : d.Kept d.resolveInterval.2.1 := by
  unfold resolveInterval
  split <;> exact ⟨rfl, rfl, rfl⟩

theorem record?_ne_none {origin : Origin} :
    d.record? origin ≠ none ↔ origin ∈ d.records.map Prod.fst := by
  rw [← Labelled.lookup_isSome_iff, ← Option.isSome_iff_ne_none]
  rfl

/-- An origin without a record gets one with no listeners yet. -/
theorem ensureRecord_records (d : Dispatcher ε) (origin : Origin) :
    (d.ensureRecord origin).1.nextEndpoint = d.nextEndpoint ∧
      (d.ensureRecord origin).1.nextTicket = d.nextTicket ∧
      ∃ delay, (d.ensureRecord origin).1.records =
        d.records ++ if d.record? origin = none then [(origin, ⟨delay, []⟩)] else [] := by
  unfold ensureRecord
  by_cases hnone : d.record? origin = none
  · have hkept := d.resolveInterval_kept
    rw [if_neg (by simp [hnone])]
    refine ⟨hkept.nextEndpoint, hkept.nextTicket,
      (d.resolveInterval.2.1.delays.delayWithin d.resolveInterval.1).1, ?_⟩
    rw [if_pos hnone, ← hkept.records]
  · rw [if_pos (Option.isSome_iff_ne_none.mpr hnone)]
    refine ⟨rfl, rfl, .zero, ?_⟩
    rw [if_neg hnone, List.append_nil]

/-- What becomes of the record that an origin has or gets. -/
theorem record?_joined (d : Dispatcher ε) (origin : Origin) (f : Record ε → Record ε) :
    ∃ delay, ∀ o, ((d.ensureRecord origin).1.updateRecord origin f).record? o =
      if o = origin then some (f ((d.record? origin).getD ⟨delay, []⟩)) else d.record? o := by
  obtain ⟨-, -, delay, hrecords⟩ := d.ensureRecord_records origin
  refine ⟨delay, fun o => ?_⟩
  have hensured : (d.ensureRecord origin).1.record? o = (d.record? o).or
      (List.lookup o (if d.record? origin = none then [(origin, ⟨delay, []⟩)] else [])) := by
    show (d.ensureRecord origin).1.records.lookup o = _
    rw [hrecords, List.lookup_append]
    rfl
  rw [record?_updateRecord, hensured]
  by_cases ho : o = origin
  · subst ho
    cases d.record? o <;> simp
  · have hne : (o == origin) = false := by simpa using ho
    cases d.record? origin <;> simp [ho, List.lookup_cons, hne]

theorem joined_origins (d : Dispatcher ε) (origin : Origin) (f : Record ε → Record ε) :
    ((d.ensureRecord origin).1.updateRecord origin f).records.map Prod.fst =
      d.records.map Prod.fst ++ if d.record? origin = none then [origin] else [] := by
  obtain ⟨-, -, delay, hrecords⟩ := d.ensureRecord_records origin
  rw [updateRecord_origins, hrecords, List.map_append]
  split <;> rfl

/-- A new listener joins the record of its origin under the next number. -/
theorem record?_add (d : Dispatcher ε) (origin : Origin) (endpoint : ε) :
    ∃ delay, ∀ o, (d.add origin endpoint).2.1.record? o =
      if o = origin then
        some (((d.record? origin).getD ⟨delay, []⟩).enrolled d.nextEndpoint endpoint)
      else d.record? o :=
  record?_joined { d with nextEndpoint := d.nextEndpoint + 1 } origin
    (·.enrolled d.nextEndpoint endpoint)

theorem add_origins (d : Dispatcher ε) (origin : Origin) (endpoint : ε) :
    (d.add origin endpoint).2.1.records.map Prod.fst =
      d.records.map Prod.fst ++ if d.record? origin = none then [origin] else [] :=
  joined_origins { d with nextEndpoint := d.nextEndpoint + 1 } origin
    (·.enrolled d.nextEndpoint endpoint)

theorem add_counters (d : Dispatcher ε) (origin : Origin) (endpoint : ε) :
    (d.add origin endpoint).2.1.nextEndpoint = d.nextEndpoint + 1 ∧
      (d.add origin endpoint).2.1.nextTicket = d.nextTicket :=
  have h := ensureRecord_records { d with nextEndpoint := d.nextEndpoint + 1 } origin
  ⟨h.1, h.2.1⟩

theorem remove_of_not_mem {r : Registration} (hid : r.id ∉ d.registered r.origin) :
    (d.remove r).1 = d := by
  have hnone : d.listener? r.origin r.id = none := by
    simpa using fun h => hid (listener?_isSome.mp h)
  unfold remove
  rw [hnone]

theorem remove_counters (d : Dispatcher ε) (r : Registration) :
    (d.remove r).1.nextEndpoint = d.nextEndpoint ∧ (d.remove r).1.nextTicket = d.nextTicket := by
  unfold remove
  split
  next => exact ⟨rfl, rfl⟩
  next =>
    dsimp only
    split <;> exact ⟨rfl, rfl⟩

/-- The last registration that is taken back takes the record with it. -/
theorem remove_records {r : Registration} {record : Record ε}
    (hrecord : d.record? r.origin = some record) (hid : r.id ∈ d.registered r.origin) :
    (d.remove r).1.records =
      if (record.released r.id).listeners.isEmpty then
        (d.updateRecord r.origin (·.released r.id)).records.eraseP (·.1 = r.origin)
      else (d.updateRecord r.origin (·.released r.id)).records := by
  obtain ⟨endpoint, hendpoint⟩ := Option.isSome_iff_exists.mp (listener?_isSome.mpr hid)
  have hlast : ((d.updateRecord r.origin (·.released r.id)).record? r.origin).map
      (·.listeners.isEmpty) = some (record.released r.id).listeners.isEmpty := by
    simp [record?_updateRecord, hrecord]
  unfold remove
  rw [hendpoint]
  dsimp only
  change Option.map _ (record? (d.updateRecord r.origin fun record => _) r.origin) = _ at hlast
  unfold Record.released at hlast ⊢
  rw [hlast]
  split <;> simp_all

theorem record?_remove (hnodup : (d.records.map Prod.fst).Nodup) {r : Registration}
    (hid : r.id ∈ d.registered r.origin) (o : Origin) :
    (d.remove r).1.record? o =
      if o = r.origin then
        ((d.record? o).map (·.released r.id)).filter fun record => !record.listeners.isEmpty
      else d.record? o := by
  obtain ⟨record, hrecord⟩ : ∃ record, d.record? r.origin = some record := by
    cases hrecord : d.record? r.origin with
    | none => simp [registered_of_none hrecord] at hid
    | some record => exact ⟨record, rfl⟩
  have hupdated := record?_updateRecord d r.origin (·.released r.id)
  have horigins : ((d.updateRecord r.origin (·.released r.id)).records.map Prod.fst).Nodup := by
    rw [updateRecord_origins]
    exact hnodup
  have hfound : (d.remove r).1.record? o = (d.remove r).1.records.lookup o := rfl
  rw [hfound, remove_records hrecord hid]
  split
  next hempty =>
    rw [Labelled.lookup_eraseP horigins]
    by_cases ho : o = r.origin
    · subst ho
      simp_all [Option.filter]
    · rw [if_neg ho, if_neg ho]
      exact (hupdated o).trans (if_neg ho)
  next hlast =>
    apply (hupdated o).trans
    by_cases ho : o = r.origin
    · subst ho
      simp_all [Option.filter]
    · rw [if_neg ho, if_neg ho]

/-! ## Registrations -/

theorem registered_add (d : Dispatcher ε) (origin : Origin) (endpoint : ε) (o : Origin) :
    (d.add origin endpoint).2.1.registered o =
      d.registered o ++ if o = origin then [d.nextEndpoint] else [] := by
  obtain ⟨delay, hadd⟩ := d.record?_add origin endpoint
  by_cases ho : o = origin
  · subst ho
    rw [registered_of_record? ((hadd o).trans (if_pos rfl)), if_pos rfl]
    unfold registered
    cases d.record? o <;> simp [Record.enrolled]
  · unfold registered
    rw [hadd o, if_neg ho, if_neg ho, List.append_nil]

theorem mem_registered_add {origin o : Origin} {endpoint : ε} {id : EndpointId} :
    id ∈ (d.add origin endpoint).2.1.registered o ↔
      id ∈ d.registered o ∨ (o = origin ∧ id = d.nextEndpoint) := by
  rw [registered_add, List.mem_append]
  split <;> simp_all

/-- The registry of a dispatcher: an origin has at most one record, a record has a
listener, and numbers are given out in ascending order and stay with their origin. -/
structure Sound (d : Dispatcher ε) : Prop where
  origins_nodup : (d.records.map Prod.fst).Nodup
  peopled : ∀ origin record, d.record? origin = some record → record.listeners ≠ []
  ascending : ∀ origin, (d.registered origin).Pairwise (· < ·)
  id_lt : ∀ origin, ∀ id ∈ d.registered origin, id < d.nextEndpoint
  home : ∀ origin other id, id ∈ d.registered origin → id ∈ d.registered other → origin = other

theorem Sound.registered_ne_nil (h : d.Sound) {origin : Origin}
    (horigin : d.record? origin ≠ none) :
    d.registered origin ≠ [] := by
  obtain ⟨record, hrecord⟩ := Option.ne_none_iff_exists'.mp horigin
  rw [registered_of_record? hrecord, Ne, List.map_eq_nil_iff]
  exact h.peopled origin record hrecord

theorem Sound.record?_ne_none_iff (h : d.Sound) {origin : Origin} :
    d.record? origin ≠ none ↔ d.registered origin ≠ [] :=
  ⟨h.registered_ne_nil, fun hids hnone => hids (registered_of_none hnone)⟩

theorem listenerCount_eq (d : Dispatcher ε) (origin : Origin) :
    d.listenerCount origin = (d.registered origin).length := by
  unfold listenerCount registered
  cases d.record? origin <;> simp

/-- Taking a registration back takes out its number and no other. -/
theorem Sound.registered_remove (h : d.Sound) (r : Registration) (origin : Origin) :
    (d.remove r).1.registered origin =
      if origin = r.origin then (d.registered origin).filter (· ≠ r.id)
      else d.registered origin := by
  by_cases hid : r.id ∈ d.registered r.origin
  · have hremove := record?_remove h.origins_nodup hid origin
    by_cases ho : origin = r.origin
    · subst ho
      rw [if_pos rfl] at hremove ⊢
      cases hrecord : d.record? r.origin with
      | none => simp [registered_of_none hrecord] at hid
      | some record =>
          have hkeys : (record.listeners.map Prod.fst).Nodup := by
            rw [← registered_of_record? hrecord]
            exact (h.ascending r.origin).imp Nat.ne_of_lt
          have hreleased : (record.released r.id).listeners.map Prod.fst =
              (d.registered r.origin).filter (· ≠ r.id) := by
            rw [registered_of_record? hrecord, List.filter_map]
            show (record.listeners.eraseP _).map _ = _
            rw [Labelled.eraseP_eq_filter hkeys]
            rfl
          rw [← hreleased]
          unfold registered
          rw [hremove, hrecord]
          -- an origin whose record went counts like one without listeners
          cases hempty : (record.released r.id).listeners.isEmpty with
          | true => simp_all [Option.filter]
          | false => simp_all [Option.filter]
    · unfold registered
      rw [hremove, if_neg ho, if_neg ho]
  · rw [remove_of_not_mem hid]
    split
    next ho =>
      subst ho
      refine (List.filter_eq_self.mpr fun x hx => ?_).symm
      have hne : x ≠ r.id := fun heq => hid (heq ▸ hx)
      simpa using hne
    next => rfl

theorem Sound.mem_registered_remove (h : d.Sound) {r : Registration} {origin : Origin}
    {id : EndpointId} :
    id ∈ (d.remove r).1.registered origin ↔
      id ∈ d.registered origin ∧ ¬ (origin = r.origin ∧ id = r.id) := by
  rw [h.registered_remove]
  split <;> simp_all

theorem sound_of_no_records (h : d.records = []) : d.Sound := by
  have hnone : ∀ origin, d.record? origin = none := by
    intro origin
    unfold record?
    rw [h]
    rfl
  refine ⟨by simp [h], ?_, ?_, ?_, ?_⟩
  · intro origin record hrecord
    rw [hnone] at hrecord
    cases hrecord
  · intro origin
    rw [registered_of_none (hnone origin)]
    exact List.Pairwise.nil
  · intro origin id hid
    rw [registered_of_none (hnone origin)] at hid
    cases hid
  · intro origin other id hid
    rw [registered_of_none (hnone origin)] at hid
    cases hid

theorem Sound.congr (h : d.Sound) (hrecords : d'.records = d.records)
    (hnext : d'.nextEndpoint = d.nextEndpoint) : d'.Sound where
  origins_nodup := hrecords ▸ h.origins_nodup
  peopled origin record hrecord :=
    h.peopled origin record (record?_congr hrecords origin ▸ hrecord)
  ascending origin := registered_congr hrecords origin ▸ h.ascending origin
  id_lt origin id hid := by
    rw [hnext]
    exact h.id_lt origin id (registered_congr hrecords origin ▸ hid)
  home origin other id hid hother :=
    h.home origin other id (registered_congr hrecords origin ▸ hid)
      (registered_congr hrecords other ▸ hother)

theorem Sound.add (h : d.Sound) (origin : Origin) (endpoint : ε) :
    (d.add origin endpoint).2.1.Sound := by
  have hnext := (d.add_counters origin endpoint).1
  have hfresh : ∀ o, d.nextEndpoint ∉ d.registered o :=
    fun o hid => Nat.lt_irrefl _ (h.id_lt o _ hid)
  constructor
  case origins_nodup =>
    rw [add_origins]
    split
    next hnone =>
      refine List.nodup_append.mpr ⟨h.origins_nodup, List.nodup_singleton origin, ?_⟩
      rintro o ho _ horigin rfl
      exact record?_ne_none.mpr (List.mem_singleton.mp horigin ▸ ho) hnone
    next =>
      rw [List.append_nil]
      exact h.origins_nodup
  case peopled =>
    intro o record hrecord
    obtain ⟨delay, hadd⟩ := d.record?_add origin endpoint
    rw [hadd o] at hrecord
    split at hrecord
    next =>
      cases hrecord
      simp [Record.enrolled]
    next => exact h.peopled o record hrecord
  case ascending =>
    intro o
    rw [registered_add]
    split
    next =>
      refine List.pairwise_append.mpr ⟨h.ascending o, List.pairwise_singleton _ _, ?_⟩
      intro x hx y hy
      rw [List.mem_singleton.mp hy]
      exact h.id_lt o x hx
    next =>
      rw [List.append_nil]
      exact h.ascending o
  case id_lt =>
    intro o id hid
    rw [hnext]
    rcases mem_registered_add.mp hid with hid | ⟨_, rfl⟩
    · exact Nat.lt_succ_of_lt (h.id_lt o id hid)
    · exact Nat.lt_succ_self _
  case home =>
    -- the new number is nobody's so far
    intro o other id hid hother
    rcases mem_registered_add.mp hid with hid | ⟨rfl, rfl⟩
    · rcases mem_registered_add.mp hother with hother | ⟨_, rfl⟩
      · exact h.home o other id hid hother
      · exact absurd hid (hfresh o)
    · rcases mem_registered_add.mp hother with hother | ⟨rfl, _⟩
      · exact absurd hother (hfresh other)
      · rfl

/-- A record that stays after a listener left has the delay it had before. -/
theorem Sound.record?_of_remove (h : d.Sound) {r : Registration} {origin : Origin}
    {record : Record ε} (hrecord : (d.remove r).1.record? origin = some record) :
    record.listeners ≠ [] ∧ ∃ before, d.record? origin = some before ∧
      before.delay = record.delay := by
  by_cases hid : r.id ∈ d.registered r.origin
  · rw [record?_remove h.origins_nodup hid] at hrecord
    split at hrecord
    next =>
      obtain ⟨hmap, hpeopled⟩ := Option.filter_eq_some_iff.mp hrecord
      obtain ⟨before, hbefore, rfl⟩ := Option.map_eq_some_iff.mp hmap
      exact ⟨by simpa using hpeopled, before, hbefore, rfl⟩
    next => exact ⟨h.peopled origin record hrecord, record, hrecord, rfl⟩
  · rw [remove_of_not_mem hid] at hrecord
    exact ⟨h.peopled origin record hrecord, record, hrecord, rfl⟩

theorem Sound.remove (h : d.Sound) (r : Registration) : (d.remove r).1.Sound := by
  constructor
  case origins_nodup =>
    by_cases hid : r.id ∈ d.registered r.origin
    · cases hrecord : d.record? r.origin with
      | none => simp [registered_of_none hrecord] at hid
      | some record =>
          have horigins :
              ((d.updateRecord r.origin (·.released r.id)).records.map Prod.fst).Nodup := by
            rw [updateRecord_origins]
            exact h.origins_nodup
          rw [remove_records hrecord hid]
          split
          next => exact horigins.sublist (List.eraseP_sublist.map Prod.fst)
          next => exact horigins
    · rw [remove_of_not_mem hid]
      exact h.origins_nodup
  case peopled => exact fun origin record hrecord => (h.record?_of_remove hrecord).1
  case ascending =>
    intro origin
    rw [h.registered_remove]
    split
    next => exact (h.ascending origin).sublist List.filter_sublist
    next => exact h.ascending origin
  case id_lt =>
    intro origin id hid
    rw [(d.remove_counters r).1]
    exact h.id_lt origin id (h.mem_registered_remove.mp hid).1
  case home =>
    intro origin other id hid hother
    exact h.home origin other id (h.mem_registered_remove.mp hid).1
      (h.mem_registered_remove.mp hother).1

/-! ## The listener of a registration -/

theorem listener?_congr (h : d'.records = d.records) (origin : Origin) (id : EndpointId) :
    d'.listener? origin id = d.listener? origin id := by
  unfold listener?
  rw [record?_congr h]

theorem listener?_eq_none {origin : Origin} {id : EndpointId} :
    d.listener? origin id = none ↔ id ∉ d.registered origin := by
  rw [← listener?_isSome, Option.not_isSome_iff_eq_none]

theorem Sound.listener?_add (h : d.Sound) (origin : Origin) (endpoint : ε) (o : Origin)
    (id : EndpointId) :
    (d.add origin endpoint).2.1.listener? o id =
      if o = origin ∧ id = d.nextEndpoint then some endpoint else d.listener? o id := by
  obtain ⟨delay, hadd⟩ := d.record?_add origin endpoint
  unfold listener?
  rw [hadd o]
  by_cases ho : o = origin
  · subst ho
    -- numbers that are handed out are new, so it is found behind all others
    have hfresh : ((d.record? o).getD ⟨delay, []⟩).listeners.lookup d.nextEndpoint = none := by
      have hnone : d.listener? o d.nextEndpoint = none :=
        listener?_eq_none.mpr fun hmem => Nat.lt_irrefl _ (h.id_lt o _ hmem)
      unfold listener? at hnone
      cases hrecord : d.record? o with
      | none => rfl
      | some record =>
          rw [hrecord] at hnone
          exact hnone
    rw [if_pos rfl, Option.bind_some]
    show (((d.record? o).getD ⟨delay, []⟩).listeners ++ [(d.nextEndpoint, endpoint)]).lookup id = _
    rw [List.lookup_append]
    by_cases hid : id = d.nextEndpoint
    · subst hid
      simp [hfresh]
    · have hne : (id == d.nextEndpoint) = false := by simpa using hid
      cases d.record? o <;> simp [hid, List.lookup_cons, hne]
  · rw [if_neg ho, if_neg (fun h => ho h.1)]

theorem Sound.listener?_remove (h : d.Sound) (r : Registration) (o : Origin) (id : EndpointId) :
    (d.remove r).1.listener? o id =
      if o = r.origin ∧ id = r.id then none else d.listener? o id := by
  by_cases hgone : o = r.origin ∧ id = r.id
  · rw [if_pos hgone]
    exact listener?_eq_none.mpr fun hmem => (h.mem_registered_remove.mp hmem).2 hgone
  · rw [if_neg hgone]
    by_cases hid : r.id ∈ d.registered r.origin
    · have hremove := record?_remove h.origins_nodup hid o
      by_cases ho : o = r.origin
      · subst ho
        rw [if_pos rfl] at hremove
        unfold listener?
        rw [hremove]
        cases hrecord : d.record? r.origin with
        | none => rfl
        | some record =>
            have hkeys : (record.listeners.map Prod.fst).Nodup := by
              rw [← registered_of_record? hrecord]
              exact (h.ascending r.origin).imp Nat.ne_of_lt
            have hfound : (record.released r.id).listeners.lookup id =
                record.listeners.lookup id :=
              (Labelled.lookup_eraseP hkeys r.id id).trans (if_neg fun heq => hgone ⟨rfl, heq⟩)
            rw [Option.bind_some, ← hfound, Option.map_some]
            -- a record that went had nobody left to be found
            cases hlisteners : (record.released r.id).listeners with
            | nil => simp [Option.filter, hlisteners]
            | cons x rest => simp [Option.filter, hlisteners]
      · unfold listener?
        rw [hremove, if_neg ho]
    · rw [remove_of_not_mem hid]

/-- Whoever is registered was so before, or has just got the new number. -/
theorem Sound.listener?_add_eq_some (h : d.Sound) {origin o : Origin} {endpoint e : ε}
    {id : EndpointId} :
    (d.add origin endpoint).2.1.listener? o id = some e ↔
      d.listener? o id = some e ∨ (o = origin ∧ id = d.nextEndpoint ∧ endpoint = e) := by
  rw [h.listener?_add]
  split
  next hnew =>
    obtain ⟨rfl, rfl⟩ := hnew
    have hnone : d.listener? o d.nextEndpoint = none :=
      listener?_eq_none.mpr fun hmem => Nat.lt_irrefl _ (h.id_lt o _ hmem)
    simp [hnone]
  next hold =>
    exact ⟨.inl, fun hfound => hfound.resolve_right fun hnew => hold ⟨hnew.1, hnew.2.1⟩⟩

theorem Sound.listener?_remove_eq_some (h : d.Sound) {r : Registration} {o : Origin}
    {id : EndpointId} {e : ε} :
    (d.remove r).1.listener? o id = some e ↔
      d.listener? o id = some e ∧ ¬ (o = r.origin ∧ id = r.id) := by
  rw [h.listener?_remove]
  split <;> simp_all

end Dispatcher

end Cadence.Broadcast
