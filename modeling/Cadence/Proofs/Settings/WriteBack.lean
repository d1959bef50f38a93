import Cadence.Proofs.Toml.Bounds
import Cadence.Proofs.Toml.Lines
import Cadence.Settings.Source

/-! # Settings written back

A document holds numbers of 63 bits, and so do settings that were read from one. The
environment may set an interval that no document can hold; all other settings that were
loaded can be written, and what was written reads back as the same settings.
-/

namespace Cadence

open Document Toml

/-! ## Numbers that were read -/

theorem Toml.Bounded.word_le {x : Toml} (h : x.Bounded) {n : Nat} (hn : word? x = some n) :
    n ≤ Settings.largestNumber := by
  cases h with
  | @integer i hi =>
      cases i with
      | ofNat m =>
          simp only [word?, Option.ite_none_right_eq_some, Option.some.injEq] at hn
          obtain ⟨_, rfl⟩ := hn
          simp [inRange, Settings.largestNumber] at hi ⊢
          omega
      | negSucc m => cases hn
  | _ => cases hn

/-- The fields of a record are bounded, whether it is a table or a list. -/
theorem Toml.Bounded.field {x y : Toml} (h : x.Bounded) {names : List String} {lenient : Bool}
    {f : String → Option Toml} (hfields : fields? names lenient x = some f) {name : String}
    (hy : f name = some y) : y.Bounded := by
  unfold fields? at hfields
  split at hfields
  next members hmembers =>
    split at hfields
    next => cases hfields
    next =>
      cases hfields
      cases h with
      | table hall =>
          cases hmembers
          exact Members.Bounded.lookup hall hy
      | _ => cases hmembers
  next =>
    split at hfields
    next => cases hfields
    next items hitems =>
      split at hfields
      next => cases hfields
      next =>
        split at hfields
        next => cases hfields
        next =>
          cases hfields
          obtain ⟨front, back, hzip, _⟩ := List.lookup_eq_some_iff.mp hy
          have hmem : y ∈ items :=
            (List.of_mem_zip (hzip ▸ List.mem_append_right front List.mem_cons_self)).2
          cases h with
          | array hall =>
              cases hitems
              exact hall y hmem
          | tables hall =>
              cases hitems
              obtain ⟨t, ht, rfl⟩ := List.mem_map.mp hmem
              exact .table (hall t ht)
          | _ => cases hitems

/-- A number that has a default is in range if the default is. -/
theorem Toml.Bounded.withDefault_le {x : Toml} (h : x.Bounded) {names : List String}
    {lenient : Bool} {f : String → Option Toml} (hfields : fields? names lenient x = some f)
    {name : String} {default n : Nat} (hdefault : default ≤ Settings.largestNumber)
    (hn : withDefault (f name) word? default = some n) : n ≤ Settings.largestNumber := by
  unfold withDefault at hn
  split at hn
  next =>
    cases hn
    exact hdefault
  next hy => exact (h.field hfields hy).word_le hn

namespace Settings

/-- Settings whose numbers fit into a document. -/
structure Fits (s : Settings) : Prop where
  capacity : s.incidents.capacity ≤ largestNumber
  intervalSecs : s.dispatch.intervalSecs ≤ largestNumber

theorem capacity_le {x : Toml} (h : x.Bounded) {s : IncidentSettings}
    (hs : IncidentSettings.ofDocument? x = some s) : s.capacity ≤ largestNumber := by
  simp only [IncidentSettings.ofDocument?, Option.bind_eq_bind, Option.bind_eq_some_iff] at hs
  obtain ⟨f, hf, capacity, hcapacity, heq⟩ := hs
  cases heq
  exact h.withDefault_le hf (by decide) hcapacity

theorem intervalSecs_le {x : Toml} (h : x.Bounded) {s : DispatchSettings}
    (hs : DispatchSettings.ofDocument? x = some s) : s.intervalSecs ≤ largestNumber := by
  simp only [DispatchSettings.ofDocument?, Option.bind_eq_bind, Option.bind_eq_some_iff] at hs
  obtain ⟨f, hf, secs, hsecs, heq⟩ := hs
  cases heq
  exact h.withDefault_le hf (by decide) hsecs

/-- A section that is not given has the numbers of the defaults. -/
theorem fits_of_ofDocument? {x : Toml} (h : x.Bounded) {s : Settings}
    (hs : Settings.ofDocument? x = some s) : s.Fits := by
  simp only [Settings.ofDocument?, Option.bind_eq_bind, Option.bind_eq_some_iff] at hs
  obtain ⟨f, hf, incidents, hincidents, dispatch, hdispatch, logging, _, heq⟩ := hs
  cases heq
  refine ⟨?_, ?_⟩
  · unfold withDefault at hincidents
    split at hincidents
    next =>
      cases hincidents
      exact (by decide : Incident.defaultCapacity ≤ largestNumber)
    next hy => exact capacity_le (h.field hf hy) hincidents
  · unfold withDefault at hdispatch
    split at hdispatch
    next =>
      cases hdispatch
      exact (by decide : 60 ≤ largestNumber)
    next hy => exact intervalSecs_le (h.field hf hy) hdispatch

/-- Settings that were read from a text fit into one. -/
theorem fits_of_parse {text : String} {s : Settings} (h : parse text = .ok s) : s.Fits := by
  unfold parse at h
  split at h
  next => cases h
  next hread =>
    split at h
    next hs =>
      cases h
      exact fits_of_ofDocument? (read?_bounded hread) hs
    next => cases h

/-! ## The written page -/

/-- The lines of written settings. -/
def page (s : Settings) : List Line :=
  [.header "incident_log",
    .pair "capacity" (Nat.toDigits 10 s.incidents.capacity) (.integer s.incidents.capacity),
    .blank,
    .header "dispatcher",
    .pair "event_interval_secs" (Nat.toDigits 10 s.dispatch.intervalSecs)
      (.integer s.dispatch.intervalSecs),
    .blank,
    .header "logging",
    .pair "level" (Quoted.encode s.logging.level).toList (.string s.logging.level),
    .pair "format" (Quoted.encode s.logging.format.text).toList (.string s.logging.format.text)] ++
  s.logging.file.toList.map fun file => .pair "file" (Quoted.encode file).toList (.string file)

theorem toToml_of_fits {s : Settings} (h : s.Fits) :
    s.toToml = .ok (String.ofList (pageText s.page)) := by
  unfold toToml
  rw [if_neg (by have := h.capacity; have := h.intervalSecs; omega)]
  refine congrArg Except.ok (String.toList_injective ?_)
  cases hfile : s.logging.file <;> simp [page, hfile, pageText, Line.text, Text.decimal]

theorem toToml_of_not_fits {s : Settings} (h : ¬ s.Fits) :
    s.toToml = .error (.malformed "out-of-range value") := by
  unfold toToml
  rw [if_pos]
  by_contra hnot
  exact h ⟨by omega, by omega⟩

theorem plain_page {s : Settings} (h : s.Fits) : ∀ l ∈ s.page, l.Plain := by
  have hfile : ∀ l ∈ s.logging.file.toList.map fun file =>
      Line.pair "file" (Quoted.encode file).toList (.string file), l.Plain := by
    intro l hl
    obtain ⟨file, _, rfl⟩ := List.mem_map.mp hl
    exact ⟨by decide, written_string file⟩
  have hincidents : Bare "incident_log" ∧ Bare "capacity" := by decide
  have hdispatch : Bare "dispatcher" ∧ Bare "event_interval_secs" := by decide
  have hlogging : Bare "logging" ∧ Bare "level" ∧ Bare "format" := by decide
  unfold page
  rw [List.forall_mem_append]
  refine ⟨?_, hfile⟩
  simp only [List.forall_mem_cons]
  exact ⟨hincidents.1, ⟨hincidents.2, written_decimal h.capacity⟩, trivial, hdispatch.1,
    ⟨hdispatch.2, written_decimal h.intervalSecs⟩, trivial, hlogging.1,
    ⟨hlogging.2.1, written_string _⟩, ⟨hlogging.2.2, written_string _⟩, nofun⟩

/-- The document of written settings. -/
def document (s : Settings) : Members :=
  [("incident_log", .table .headed [("capacity", .integer s.incidents.capacity)]),
    ("dispatcher", .table .headed [("event_interval_secs", .integer s.dispatch.intervalSecs)]),
    ("logging", .table .headed (("level", .string s.logging.level) ::
      ("format", .string s.logging.format.text) ::
      s.logging.file.toList.map fun file => ("file", Toml.string file)))]

theorem enter_page (s : Settings) :
    (s.page.foldlM Line.enter {}).map Reading.root = some s.document := by
  cases hfile : s.logging.file <;>
    simp [page, document, hfile, Line.enter, beginTable, putUnder, putDotted, changeAt, setMember,
      List.lookup_cons]

theorem fields?_table {form : Form} {members : Members} {names : List String} {lenient : Bool}
    (hunique : names.any (1 < occurrences · members) = false) :
    fields? names lenient (Toml.table form members) = some fun name => members.lookup name := by
  unfold fields?
  simp [members?, hunique]

theorem word?_integer {n : Nat} (hn : n ≤ largestNumber) :
    word? (Toml.integer n) = some n := by
  have hword : n ≤ Text.maxWord := hn.trans (by decide)
  exact if_pos hword

theorem lineFormat_text (f : LineFormat) :
    LineFormat.ofDocument? (Toml.string f.text) = some f := by
  cases f <;> rfl

theorem ofDocument?_logging (s : LogSettings) :
    LogSettings.ofDocument? (Toml.table .headed (("level", .string s.level) ::
      ("format", .string s.format.text) ::
      s.file.toList.map fun file => ("file", Toml.string file))) = some s := by
  have hlevel : Document.string? (Toml.string s.level) = some s.level := rfl
  have hfile : ∀ file, optional? Document.string? (Toml.string file) = some (some file) :=
    fun _ => rfl
  unfold LogSettings.ofDocument?
  obtain ⟨level, format, file⟩ := s
  cases file with
  | none =>
      rw [fields?_table rfl]
      simp [withDefault, List.lookup_cons, hlevel, lineFormat_text]
  | some file =>
      rw [fields?_table rfl]
      simp [withDefault, List.lookup_cons, hlevel, hfile, lineFormat_text]

theorem ofDocument?_document {s : Settings} (h : s.Fits) :
    Settings.ofDocument? (Toml.table .headed s.document) = some s := by
  have hincidents : IncidentSettings.ofDocument?
      (Toml.table .headed [("capacity", .integer s.incidents.capacity)]) = some s.incidents := by
    unfold IncidentSettings.ofDocument?
    rw [fields?_table rfl]
    simp [withDefault, word?_integer h.capacity]
  have hdispatch : DispatchSettings.ofDocument?
      (Toml.table .headed [("event_interval_secs", .integer s.dispatch.intervalSecs)]) =
        some s.dispatch := by
    unfold DispatchSettings.ofDocument?
    rw [fields?_table rfl]
    simp [withDefault, word?_integer h.intervalSecs]
  have hlogging := ofDocument?_logging s.logging
  unfold Settings.ofDocument? document
  rw [fields?_table rfl]
  simp [withDefault, List.lookup_cons, hincidents, hdispatch, hlogging]

/-- Settings that were written read back as the same settings. -/
theorem parse_toToml {s : Settings} {text : String} (h : s.toToml = .ok text) :
    parse text = .ok s := by
  by_cases hfits : s.Fits
  · rw [toToml_of_fits hfits] at h
    cases h
    have hread : Toml.read? (String.ofList (pageText s.page)) =
        some (Toml.table .headed s.document) := by
      rw [read?_pageText (plain_page hfits) (by simp [page, pageText, Line.text])]
      obtain ⟨r, hr, hroot⟩ := Option.map_eq_some_iff.mp s.enter_page
      rw [hr, ← hroot]
      rfl
    unfold parse
    rw [hread]
    dsimp only
    rw [ofDocument?_document hfits]
  · rw [toToml_of_not_fits hfits] at h
    cases h

/-! ## Loading -/

/-- The interval that the environment sets, if it sets one. -/
def interval? (value : Option String) : Option Nat :=
  value.bind fun raw => Text.readWord? (Text.trim raw.toList)

theorem override_eq_ok {s next : Settings} {value : Option String}
    (h : s.override value = .ok next) :
    next = { s with dispatch :=
      { intervalSecs := (interval? value).getD s.dispatch.intervalSecs } } := by
  unfold override at h
  unfold interval?
  cases value with
  | none =>
      cases h
      rfl
  | some raw =>
      rw [Option.bind_some]
      dsimp only at h
      split at h
      next secs hsecs =>
        cases h
        rw [hsecs]
        rfl
      next => cases h

/-- Loading is reading a text, then taking the interval from the environment. -/
theorem load_eq_ok {folder : Folder} {path : String} {value : Option String} {s : Settings}
    {events : List Event} (h : load folder path value = .ok (s, events)) :
    ∃ text read, parse text = .ok read ∧ read.override value = .ok s := by
  unfold load at h
  split at h
  next => cases h
  next text _ =>
    simp only [bind, Except.bind] at h
    split at h
    next => cases h
    next read hread =>
      split at h
      next => cases h
      next next hnext =>
        split at h
        next => cases h
        next =>
          cases h
          exact ⟨text, read, hread, hnext⟩

theorem load_of_parse {folder : Folder} {path text : String} {value : Option String}
    {read s : Settings} (htext : folder.readText path = .ok text) (hparse : parse text = .ok read)
    (hoverride : read.override value = .ok s)
    (hlevel : (Logging.Filter.read? s.logging.level).isSome) :
    load folder path value =
      .ok (s, [.loadedSettings path s.incidents.capacity s.dispatch.intervalSecs]) := by
  unfold load
  rw [htext]
  simp only [bind, Except.bind, hparse, hoverride, validate, hlevel]
  rfl

/-- A file holds the bytes of its text. -/
theorem readText_file (text : String) :
    let folder : Folder := { entries := [(["app.toml"], .file text.toUTF8.data.toList)] }
    folder.readText "app.toml" = .ok text := by
  intro folder
  have hdecoded : String.fromUTF8? text.toUTF8 = some text := dif_pos text.isValidUTF8
  have hpath : Folder.path? "app.toml" = .ok { names := ["app.toml"], folder := false } := rfl
  have hwalk : folder.walk [] ["app.toml"] = .ok (some (.file text.toUTF8.data.toList)) := rfl
  unfold Folder.readText
  simp only [bind, Except.bind, hpath, hwalk, Bool.false_eq_true, if_false]
  rw [hdecoded]

/-- Loaded settings can be written unless the environment set an interval that no document
holds, and what is written reads back as the same settings. -/
theorem loaded_written_back {folder : Folder} {path : String} {value : Option String}
    {s : Settings} {events : List Event} (h : load folder path value = .ok (s, events)) :
    (s.toToml = .error (.malformed "out-of-range value") ↔
      ∃ secs, interval? value = some secs ∧ largestNumber < secs) ∧
    ((¬ ∃ secs, interval? value = some secs ∧ largestNumber < secs) →
      ∃ text, s.toToml = .ok text ∧ parse text = .ok s) := by
  obtain ⟨text, read, hread, hoverride⟩ := load_eq_ok h
  have hfits := fits_of_parse hread
  have hs := override_eq_ok hoverride
  have hwritten : s.Fits ↔ ¬ ∃ secs, interval? value = some secs ∧ largestNumber < secs := by
    constructor
    · rintro hs' ⟨secs, hsecs, hlarge⟩
      have hsmall := hs'.intervalSecs
      rw [hs, hsecs] at hsmall
      exact absurd hlarge (Nat.not_lt.mpr hsmall)
    · intro hnone
      refine ⟨by rw [hs]; exact hfits.capacity, ?_⟩
      rw [hs]
      cases hvalue : interval? value with
      | none => exact hfits.intervalSecs
      | some secs => exact Nat.not_lt.mp fun hlarge => hnone ⟨secs, hvalue, hlarge⟩
  refine ⟨?_, fun hnone => ?_⟩
  · by_cases hs' : s.Fits
    · simp [toToml_of_fits hs', ← not_iff_not, ← hwritten, hs']
    · simp [toToml_of_not_fits hs', ← not_iff_not, ← hwritten, hs']
  · have htoml := toToml_of_fits (hwritten.mpr hnone)
    exact ⟨_, htoml, parse_toToml htoml⟩

/-- A file name with quotes and a backslash is loaded, written and read back. -/
theorem loaded_written_back_quotes :
    let s : Settings :=
      { incidents := { capacity := 7 }
        logging := { level := "", format := .json, file := some "it's a \"\\\"" } }
    let folder : Folder :=
      { entries := [(["app.toml"], .file (String.ofList (pageText s.page)).toUTF8.data.toList)] }
    let next : Settings := { s with dispatch := { intervalSecs := 15 } }
    ∃ events text, load folder "app.toml" (some " 15 ") = .ok (next, events) ∧
      next.toToml = .ok text ∧ parse text = .ok next := by
  intro s folder next
  have hparse : parse (String.ofList (pageText s.page)) = .ok s :=
    parse_toToml (toToml_of_fits ⟨by decide, by decide⟩)
  have hsecs : interval? (some " 15 ") = some 15 := by decide
  have hvalue : Text.readWord? (Text.trim " 15 ".toList) = some 15 := hsecs
  have hoverride : s.override (some " 15 ") = .ok next := by
    unfold override
    dsimp only
    rw [hvalue]
  have hload := load_of_parse (readText_file _) hparse hoverride (by decide)
  have hsmall : ¬ ∃ secs, interval? (some " 15 ") = some secs ∧ largestNumber < secs := by
    rintro ⟨secs, hsome, hlarge⟩
    rw [hsecs] at hsome
    cases hsome
    exact absurd hlarge (by decide)
  obtain ⟨text, htext, hback⟩ := (loaded_written_back hload).2 hsmall
  exact ⟨_, text, hload, htext, hback⟩

/-- An interval of more than 63 bits is taken from the environment and cannot be written. -/
theorem loaded_interval_not_written :
    let text := "[logging]\nlevel = \"\"\n"
    let folder : Folder := { entries := [(["app.toml"], .file text.toUTF8.data.toList)] }
    ∃ s events, load folder "app.toml" (some "9223372036854775808") = .ok (s, events) ∧
      ∀ written, s.toToml ≠ .ok written := by
  intro text folder
  let read : Settings := { logging := { level := "" } }
  let s : Settings := { read with dispatch := { intervalSecs := 9223372036854775808 } }
  have hparse : parse text = .ok read := by
    have hplain : ∀ l ∈ [Line.header "logging",
        .pair "level" (Quoted.encode "").toList (.string "")], l.Plain := by
      have hnames : Bare "logging" ∧ Bare "level" := by decide
      simp only [List.forall_mem_cons]
      exact ⟨hnames.1, ⟨hnames.2, written_string ""⟩, List.forall_mem_nil _⟩
    have hpage : text = String.ofList (pageText [.header "logging",
        .pair "level" (Quoted.encode "").toList (.string "")]) := by decide
    have hread : Toml.read? text = some (Toml.table .headed
        [("logging", .table .headed [("level", .string "")])]) := by
      rw [hpage, read?_pageText hplain (by decide)]
      simp [Line.enter, beginTable, putUnder, putDotted, changeAt, setMember]
    unfold parse
    rw [hread]
    rfl
  have hvalue : Text.readWord? (Text.trim "9223372036854775808".toList) =
      some 9223372036854775808 := by decide
  have hoverride : read.override (some "9223372036854775808") = .ok s := by
    unfold override
    dsimp only
    rw [hvalue]
  have hlarge : ¬ s.Fits := fun h => absurd h.intervalSecs (by decide)
  refine ⟨s, _, load_of_parse (readText_file text) hparse hoverride (by decide), ?_⟩
  intro written hwritten
  rw [toToml_of_not_fits hlarge] at hwritten
  cases hwritten

end Settings

end Cadence
