import Cadence.Proofs.Settings.WriteBack
import Cadence.Proofs.Text.Numerals

/-! # Settings in layers

The defaults come first, the keys of a document replace some of them, and the environment
may replace the interval last. What a document gives is described here apart from how it
is read.
-/

namespace Cadence

open Document

/-! ## Fields of a document -/

namespace Toml

/-- What a record gives under a name. A table has its members by name; a list has the
fields in the order of the names, as far as it goes. -/
inductive Gives (names : List String) (name : String) (y : Toml) : Toml → Prop
  | member {form : Form} {members : Members} (h : members.lookup name = some y) :
      Gives names name y (.table form members)
  | item {items : List Toml} {k : Nat} (hname : names[k]? = some name)
      (hitem : items[k]? = some y) : Gives names name y (.array items)
  | headed {tables : List Members} {k : Nat} {members : Members}
      (hname : names[k]? = some name) (hitem : tables[k]? = some members)
      (hy : y = .table .headed members) : Gives names name y (.tables tables)

/-- A value with fields: a list, or a table that has none of the names twice. Other names
do not count. -/
inductive Record (names : List String) : Toml → Prop
  | table {form : Form} {members : Members}
      (h : ∀ name ∈ names, occurrences name members ≤ 1) : Record names (.table form members)
  | array {items : List Toml} : Record names (.array items)
  | tables {tables : List Members} : Record names (.tables tables)

/-- The value of a field: what is given under its name, and the default if nothing is. -/
structure Field {α : Type} (x : Toml) (names : List String) (name : String)
    (means : Toml → α → Prop) (default value : α) : Prop where
  given : ∀ y, Gives names name y x → means y value
  missing : (∀ y, ¬ Gives names name y x) → value = default

theorem lookup_zip {β : Type} {names : List String} (hnodup : names.Nodup) {items : List β}
    {name : String} {y : β} :
    (names.zip items).lookup name = some y ↔
      ∃ k : Nat, names[k]? = some name ∧ items[k]? = some y := by
  induction names generalizing items with
  | nil => simp
  | cons first names ih =>
      obtain ⟨hfirst, hrest⟩ := List.nodup_cons.mp hnodup
      cases items with
      | nil => simp
      | cons item items =>
          rw [List.zip_cons_cons, List.lookup_cons]
          by_cases heq : name = first
          · rw [← heq] at hfirst ⊢
            rw [beq_self_eq_true]
            constructor
            · intro h
              exact ⟨0, rfl, h⟩
            · rintro ⟨k, hname, hitem⟩
              cases k with
              | zero => exact hitem
              | succ k =>
                  rw [List.getElem?_cons_succ] at hname
                  exact absurd (List.mem_of_getElem? hname) hfirst
          · rw [beq_false_of_ne heq, ih hrest]
            constructor
            · rintro ⟨k, hname, hitem⟩
              exact ⟨k + 1, hname, hitem⟩
            · rintro ⟨k, hname, hitem⟩
              cases k with
              | zero => exact absurd (Option.some.inj hname).symm heq
              | succ k => exact ⟨k, hname, hitem⟩

theorem fields?_items {names : List String} {x : Toml} {items : List Toml}
    (hmembers : members? x = none) (hitems : items? x = some items) :
    fields? names true x = some fun name => (names.zip items).lookup name := by
  have hsurplus : surplus Toml = true := rfl
  unfold fields?
  simp [hmembers, hitems, hsurplus]

/-- The records are the values whose fields can be read. -/
theorem record_iff {names : List String} {x : Toml} :
    (∃ f, fields? names true x = some f) ↔ x.Record names := by
  constructor
  · rintro ⟨f, hf⟩
    cases x with
    | table form members =>
        unfold fields? at hf
        dsimp only [members?] at hf
        split at hf
        next => cases hf
        next honce => exact .table (by simpa using honce)
    | array items => exact .array
    | tables tables => exact .tables
    | _ => cases hf
  · rintro (honce | _ | _)
    · exact ⟨_, Settings.fields?_table (by simpa using honce)⟩
    · exact ⟨_, fields?_items rfl rfl⟩
    · exact ⟨_, fields?_items rfl rfl⟩

theorem gives_iff {names : List String} (hnodup : names.Nodup) {x : Toml}
    {f : String → Option Toml} (h : fields? names true x = some f) {name : String} {y : Toml} :
    f name = some y ↔ Gives names name y x := by
  cases record_iff.mp ⟨f, h⟩ with
  | table honce =>
      rw [Settings.fields?_table (by simpa using honce)] at h
      cases h
      exact ⟨.member, fun (.member hmember) => hmember⟩
  | array =>
      rw [fields?_items rfl rfl] at h
      cases h
      rw [lookup_zip hnodup]
      exact ⟨fun ⟨k, hname, hitem⟩ => .item hname hitem,
        fun (.item hname hitem) => ⟨_, hname, hitem⟩⟩
  | tables =>
      rw [fields?_items rfl rfl] at h
      cases h
      rw [lookup_zip hnodup]
      simp only [List.getElem?_map, Option.map_eq_some_iff]
      exact ⟨fun ⟨k, hname, members, hitem, hy⟩ => .headed hname hitem hy.symm,
        fun (.headed hname hitem hy) => ⟨_, hname, _, hitem, hy.symm⟩⟩

/-- A reader and what the values that it reads mean. -/
def Reads {α : Type} (read : Toml → Option α) (means : Toml → α → Prop) : Prop :=
  ∀ y v, read y = some v ↔ means y v

theorem Reads.field {α : Type} {read : Toml → Option α} {means : Toml → α → Prop}
    (hread : Reads read means) {names : List String} (hnodup : names.Nodup) {x : Toml}
    {f : String → Option Toml} (hf : fields? names true x = some f) {name : String}
    {default value : α} :
    withDefault (f name) read default = some value ↔
      x.Field names name means default value := by
  have hgives (y : Toml) : f name = some y ↔ Gives names name y x := gives_iff hnodup hf
  cases hname : f name with
  | none =>
      simp only [hname, reduceCtorEq, false_iff] at hgives
      constructor
      · intro hvalue
        exact ⟨fun y hy => absurd hy (hgives y), fun _ => (Option.some.inj hvalue).symm⟩
      · intro hfield
        rw [hfield.missing hgives]
        rfl
  | some z =>
      have hz := (hgives z).mp hname
      rw [withDefault, hread]
      constructor
      · intro hvalue
        refine ⟨fun y hy => ?_, fun hnone => absurd hz (hnone z)⟩
        rwa [← Option.some.inj (hname.symm.trans ((hgives y).mpr hy))]
      · intro hfield
        exact hfield.given z hz

/-! ## Values of fields -/

/-- A number of 64 bits without a sign. -/
def Word (x : Toml) (n : Nat) : Prop := x = .integer n ∧ n < 2 ^ 64

/-- The text of a string. -/
def Says (x : Toml) (s : String) : Prop := x = .string s

theorem reads_word? : Reads word? Word := by
  have hmax (m : Nat) : m ≤ Text.maxWord ↔ m < 2 ^ 64 := by
    rw [Text.maxWord]
    omega
  intro x n
  constructor
  · intro h
    cases x with
    | integer i =>
        cases i with
        | ofNat m =>
            simp only [word?, Option.ite_none_right_eq_some, Option.some.injEq, hmax] at h
            obtain ⟨hsmall, rfl⟩ := h
            exact ⟨rfl, hsmall⟩
        | negSucc m => cases h
    | _ => cases h
  · rintro ⟨rfl, hsmall⟩
    exact if_pos ((hmax n).mpr hsmall)

theorem reads_string? : Reads Document.string? Says := by
  intro x s
  constructor
  · intro h
    cases x with
    | string t => exact congrArg Toml.string (Option.some.inj h)
    | _ => cases h
  · rintro rfl
    rfl

/-- No value of a document stands for a missing one. -/
theorem reads_optional? :
    Reads (optional? Document.string?) fun x s => ∃ t, x.Says t ∧ some t = s := by
  intro x s
  have hpresent : isAbsent x = false := rfl
  rw [optional?, hpresent, if_neg Bool.false_ne_true, Option.map_eq_some_iff]
  simp only [reads_string? x]

end Toml

/-- A form of lines is named by a string, or by the one member of a table with nothing
in it. -/
def LineFormat.Named (x : Toml) (f : LineFormat) : Prop :=
  x = .string f.text ∨ ∃ form payload, x = .table form [(f.text, payload)] ∧ isBare payload

theorem LineFormat.lookup_choices {name : String} {f : LineFormat} :
    choices.lookup name = some f ↔ name = f.text := by
  constructor
  · intro h
    obtain ⟨front, back, heq, _⟩ := List.lookup_eq_some_iff.mp h
    have hmem : (name, f) ∈ choices := heq ▸ List.mem_append_right front List.mem_cons_self
    simp only [choices, List.mem_cons, Prod.mk.injEq, List.not_mem_nil, or_false] at hmem
    rcases hmem with ⟨rfl, rfl⟩ | ⟨rfl, rfl⟩ <;> rfl
  · rintro rfl
    cases f <;> rfl

theorem LineFormat.reads_ofDocument? :
    Toml.Reads LineFormat.ofDocument? LineFormat.Named := by
  intro x f
  constructor
  · intro h
    unfold LineFormat.ofDocument? choice? at h
    split at h
    next name hname =>
      rw [lookup_choices] at h
      exact .inl (h ▸ (Toml.reads_string? x name).mp hname)
    next =>
      split at h
      next name payload hmembers =>
        obtain ⟨hbare, hname⟩ := Option.ite_none_right_eq_some.mp h
        cases x with
        | table form members =>
            cases hmembers
            exact .inr ⟨form, payload, by rw [lookup_choices.mp hname], hbare⟩
        | _ => cases hmembers
      next => cases h
  · rintro (rfl | ⟨form, payload, rfl, hbare⟩)
    · exact lookup_choices.mpr rfl
    · exact (if_pos hbare).trans (lookup_choices.mpr rfl)

/-! ## Sections -/

/-- The settings of incident logs that a section describes. -/
structure IncidentSettings.Described (x : Toml) (s : IncidentSettings) : Prop where
  record : x.Record ["capacity"]
  capacity : x.Field ["capacity"] "capacity" Toml.Word ({} : IncidentSettings).capacity s.capacity

structure DispatchSettings.Described (x : Toml) (s : DispatchSettings) : Prop where
  record : x.Record ["event_interval_secs"]
  intervalSecs : x.Field ["event_interval_secs"] "event_interval_secs" Toml.Word
    ({} : DispatchSettings).intervalSecs s.intervalSecs

structure LogSettings.Described (x : Toml) (s : LogSettings) : Prop where
  record : x.Record ["level", "format", "file"]
  level : x.Field ["level", "format", "file"] "level" Toml.Says ({} : LogSettings).level s.level
  format : x.Field ["level", "format", "file"] "format" LineFormat.Named
    ({} : LogSettings).format s.format
  file : x.Field ["level", "format", "file"] "file" (fun y file => ∃ t, y.Says t ∧ some t = file)
    ({} : LogSettings).file s.file

/-- The settings that a document describes: the defaults, but for the fields that its
sections give. What it gives under other names does not matter. -/
structure Settings.Described (x : Toml) (s : Settings) : Prop where
  record : x.Record ["incident_log", "dispatcher", "logging"]
  incidents : x.Field ["incident_log", "dispatcher", "logging"] "incident_log"
    IncidentSettings.Described ({} : Settings).incidents s.incidents
  dispatch : x.Field ["incident_log", "dispatcher", "logging"] "dispatcher"
    DispatchSettings.Described ({} : Settings).dispatch s.dispatch
  logging : x.Field ["incident_log", "dispatcher", "logging"] "logging"
    LogSettings.Described ({} : Settings).logging s.logging

theorem IncidentSettings.reads_ofDocument? :
    Toml.Reads IncidentSettings.ofDocument? IncidentSettings.Described := by
  intro x s
  constructor
  · intro h
    simp only [IncidentSettings.ofDocument?, Option.bind_eq_bind, Option.bind_eq_some_iff] at h
    obtain ⟨f, hf, capacity, hcapacity, heq⟩ := h
    cases heq
    exact ⟨Toml.record_iff.mp ⟨f, hf⟩, (Toml.reads_word?.field (by decide) hf).mp hcapacity⟩
  · intro h
    obtain ⟨f, hf⟩ := Toml.record_iff.mpr h.record
    have hcapacity := (Toml.reads_word?.field (by decide) hf).mpr h.capacity
    simp [IncidentSettings.ofDocument?, hf, hcapacity]

theorem DispatchSettings.reads_ofDocument? :
    Toml.Reads DispatchSettings.ofDocument? DispatchSettings.Described := by
  intro x s
  constructor
  · intro h
    simp only [DispatchSettings.ofDocument?, Option.bind_eq_bind, Option.bind_eq_some_iff] at h
    obtain ⟨f, hf, secs, hsecs, heq⟩ := h
    cases heq
    exact ⟨Toml.record_iff.mp ⟨f, hf⟩, (Toml.reads_word?.field (by decide) hf).mp hsecs⟩
  · intro h
    obtain ⟨f, hf⟩ := Toml.record_iff.mpr h.record
    have hsecs := (Toml.reads_word?.field (by decide) hf).mpr h.intervalSecs
    simp [DispatchSettings.ofDocument?, hf, hsecs]

theorem LogSettings.reads_ofDocument? :
    Toml.Reads LogSettings.ofDocument? LogSettings.Described := by
  intro x s
  constructor
  · intro h
    simp only [LogSettings.ofDocument?, Option.bind_eq_bind, Option.bind_eq_some_iff] at h
    obtain ⟨f, hf, level, hlevel, format, hformat, file, hfile, heq⟩ := h
    cases heq
    exact ⟨Toml.record_iff.mp ⟨f, hf⟩, (Toml.reads_string?.field (by decide) hf).mp hlevel,
      (LineFormat.reads_ofDocument?.field (by decide) hf).mp hformat,
      (Toml.reads_optional?.field (by decide) hf).mp hfile⟩
  · intro h
    obtain ⟨f, hf⟩ := Toml.record_iff.mpr h.record
    have hlevel := (Toml.reads_string?.field (by decide) hf).mpr h.level
    have hformat := (LineFormat.reads_ofDocument?.field (by decide) hf).mpr h.format
    have hfile := (Toml.reads_optional?.field (by decide) hf).mpr h.file
    simp [LogSettings.ofDocument?, hf, hlevel, hformat, hfile]

namespace Settings

theorem reads_ofDocument? : Toml.Reads Settings.ofDocument? Settings.Described := by
  intro x s
  constructor
  · intro h
    simp only [Settings.ofDocument?, Option.bind_eq_bind, Option.bind_eq_some_iff] at h
    obtain ⟨f, hf, incidents, hincidents, dispatch, hdispatch, logging, hlogging, heq⟩ := h
    cases heq
    exact ⟨Toml.record_iff.mp ⟨f, hf⟩,
      (IncidentSettings.reads_ofDocument?.field (by decide) hf).mp hincidents,
      (DispatchSettings.reads_ofDocument?.field (by decide) hf).mp hdispatch,
      (LogSettings.reads_ofDocument?.field (by decide) hf).mp hlogging⟩
  · intro h
    obtain ⟨f, hf⟩ := Toml.record_iff.mpr h.record
    have hincidents := (IncidentSettings.reads_ofDocument?.field (by decide) hf).mpr h.incidents
    have hdispatch := (DispatchSettings.reads_ofDocument?.field (by decide) hf).mpr h.dispatch
    have hlogging := (LogSettings.reads_ofDocument?.field (by decide) hf).mpr h.logging
    simp [Settings.ofDocument?, hf, hincidents, hdispatch, hlogging]

section Loading

variable {folder : Folder} {path text : String} {value : Option String} {given s : Settings}

end Loading

end Settings

end Cadence
