import Cadence.Incident.Kind
import Cadence.Proofs.Json.Completeness
import Cadence.Proofs.Json.Records

/-! # Incidents exchanged as texts

An incident is written as a record of two members, and read back from any text that gives the
two, also where the details come before the code that says how to read them.
-/

namespace Cadence

open Document

namespace Incident

open Json

/-- The members of the details. -/
def fields (i : Incident) : List (String × Json) := (members? i.details).getD []

theorem details_eq (i : Incident) : i.details = .object i.fields := by cases i <;> rfl

theorem code_eq_tag (i : Incident) : i.code = i.kind.tag := by
  cases i with
  | sameSiteCookie => exact (by decide : "sameSiteCookie" = Kind.sameSiteCookie.tag)
  | mixedContent => exact (by decide : "mixedContent" = Kind.mixedContent.tag)
  | blockedByResponse => exact (by decide : "blockedByResponse" = Kind.blockedByResponse.tag)
  | heavyAd => exact (by decide : "heavyAd" = Kind.heavyAd.tag)
  | contentSecurityPolicy =>
      exact (by decide : "contentSecurityPolicy" = Kind.contentSecurityPolicy.tag)

theorem fields_scalar (i : Incident) : ∀ m ∈ i.fields, m.2.Scalar := by
  cases i <;> simp [fields, details, members?, Scalar.string, Scalar.bool]

theorem fields_nodup (i : Incident) : (i.fields.map Prod.fst).Nodup := by
  cases i <;> simp [fields, details, members?]

/-- An object with the code and the details of an incident. -/
def Gives (i : Incident) (members : List (String × Json)) : Prop :=
  ∃ inner, Carries i.fields inner ∧
    Carries [("code", .string i.code), ("details", .object inner)] members

theorem ofDetails?_of_carries {i : Incident} {inner : List (String × Json)}
    (h : Carries i.fields inner) : ofDetails? i.kind (.object inner) = some i := by
  obtain ⟨f, hfields, hf⟩ := h.fields? i.fields_nodup
  cases i
  all_goals
    simp only [fields, details, members?, Option.getD_some, List.map_cons, List.map_nil,
      List.forall_mem_cons] at hfields hf
    simp [ofDetails?, kind, hfields, hf, required, string?, flag?]

theorem lookup_tag (kind : Kind) :
    (Kind.all.map fun kind => (kind.tag, kind)).lookup kind.tag = some kind := by
  cases kind <;> decide

theorem choice?_code (i : Incident) :
    choice? (Kind.all.map fun kind => (kind.tag, kind)) (Json.string i.code) = some i.kind := by
  rw [code_eq_tag]
  exact lookup_tag i.kind

theorem ofJson?_of_gives {i : Incident} {members : List (String × Json)}
    (h : i.Gives members) : ofJson? (.object members) = some i := by
  obtain ⟨inner, hinner, houter⟩ := h
  obtain ⟨f, hfields, hf⟩ := houter.fields? (by simp)
  have hkeep : (Json.object inner).keepable keptDepth := hinner.keepable i.fields_scalar 125
  have hplaced : placed (.object members) (.object inner) := by simp [placed, hkeep]
  simp only [List.map_cons, List.map_nil, List.forall_mem_cons] at hfields hf
  simp [ofJson?, hfields, hf, required, choice?_code, hplaced, ofDetails?_of_carries hinner]

/-- The code and the details stand once each in what is read. -/
theorem ofJson?_members {members : List (String × Json)} {i : Incident}
    (h : ofJson? (.object members) = some i) :
    occurrences "code" members = 1 ∧ occurrences "details" members = 1 := by
  simp only [ofJson?, Option.bind_eq_bind, Option.bind_eq_some_iff] at h
  obtain ⟨f, hfields, kind, hkind, details, hdetails, _⟩ := h
  have hread : required (f "details") some = some details := by rw [hdetails]; rfl
  exact ⟨occurrences_of_required hfields (by simp) hkind,
    occurrences_of_required hfields (by simp) hread⟩

/-- The code says how the details are read. -/
theorem ofDetails?_of_ofJson? {members inner : List (String × Json)} {i j : Incident}
    (h : ofJson? (.object members) = some j) (hcode : ("code", .string i.code) ∈ members)
    (hdetails : ("details", .object inner) ∈ members) :
    ofDetails? i.kind (.object inner) = some j := by
  obtain ⟨hcodes, hplaces⟩ := ofJson?_members h
  simp only [ofJson?, Option.bind_eq_bind, Option.bind_eq_some_iff] at h
  obtain ⟨f, hfields, kind, hkind, details, hfound, hread⟩ := h
  obtain ⟨_, rfl⟩ := fields?_eq_some_iff.mp hfields
  simp only [lookup_of_occurrences hcodes hcode, lookup_of_occurrences hplaces hdetails]
    at hkind hfound
  cases hfound
  cases (choice?_code i).symm.trans hkind
  split at hread
  next => exact hread
  next => cases hread

/-- Every field of the kind stands once in the details. -/
theorem ofDetails?_members {i j : Incident} {inner : List (String × Json)}
    (h : ofDetails? i.kind (.object inner) = some j) {name : String}
    (hname : name ∈ i.fields.map Prod.fst) : occurrences name inner = 1 := by
  cases i
  case blockedByResponse =>
    simp only [kind, ofDetails?, Option.bind_eq_bind, Option.bind_eq_some_iff] at h
    obtain ⟨f, hfields, url, hurl, reason, hreason, _⟩ := h
    simp only [fields, details, members?, Option.getD_some, List.map_cons, List.map_nil,
      List.mem_cons, List.not_mem_nil, or_false] at hname
    rcases hname with rfl | rfl
    · exact occurrences_of_required hfields (by simp) hurl
    · exact occurrences_of_required hfields (by simp) hreason
  all_goals
    simp only [kind, ofDetails?, Option.bind_eq_bind, Option.bind_eq_some_iff] at h
    obtain ⟨f, hfields, url, hurl, second, hsecond, third, hthird, _⟩ := h
    simp only [fields, details, members?, Option.getD_some, List.map_cons, List.map_nil,
      List.mem_cons, List.not_mem_nil, or_false] at hname
    rcases hname with rfl | rfl | rfl
    · exact occurrences_of_required hfields (by simp) hurl
    · exact occurrences_of_required hfields (by simp) hsecond
    · exact occurrences_of_required hfields (by simp) hthird

/-! ## Texts -/

def write (i : Incident) : String := i.toJson.render

def read? (text : String) : Option Incident := (Json.read? text).bind ofJson?

theorem spells_write (i : Incident) : Spells i.toJson i.write.toList := by
  have hdetails : Spells i.details i.details.render.toList := by
    rw [details_eq]
    exact spells_object fun m hm => (i.fields_scalar m hm).spells
  exact spells_object (List.forall_mem_cons.mpr
    ⟨spells_string _, List.forall_mem_cons.mpr ⟨hdetails, List.forall_mem_nil _⟩⟩)

/-- Every text that gives an incident is read as that incident. -/
theorem read?_of_gives {i : Incident} {members : List (String × Json)} {text : String}
    (htext : Spells (.object members) text.toList) (h : i.Gives members) :
    read? text = some i := by
  rw [read?, Json.read?_of_spells htext, Option.bind_some, ofJson?_of_gives h]

theorem carries_self (known : List (String × Json)) : Carries known known :=
  ⟨[], by rw [List.append_nil], fun _ hm => absurd hm List.not_mem_nil⟩

theorem gives_toJson (i : Incident) :
    ∃ members, i.toJson = .object members ∧ i.Gives members ∧
      members.lookup "code" = some (.string i.code) := by
  refine ⟨_, rfl, ⟨i.fields, carries_self i.fields, ?_⟩, ?_⟩
  · rw [details_eq, ← code_eq_tag]
    exact carries_self _
  · rw [← code_eq_tag]
    rfl

/-- A text without the code or the details, or with one of them twice, is refused. -/
theorem read?_of_members {members : List (String × Json)} {text : String}
    (htext : Spells (.object members) text.toList)
    (h : occurrences "code" members ≠ 1 ∨ occurrences "details" members ≠ 1) :
    read? text = none := by
  rw [read?, Json.read?_of_spells htext, Option.bind_some, Option.eq_none_iff_forall_ne_some]
  intro i hread
  exact h.elim (absurd (ofJson?_members hread).1) (absurd (ofJson?_members hread).2)

/-- Details that do not have every field of the kind once are refused. -/
theorem read?_of_details {i : Incident} {members inner : List (String × Json)} {text : String}
    (htext : Spells (.object members) text.toList)
    (hcode : ("code", .string i.code) ∈ members) (hdetails : ("details", .object inner) ∈ members)
    {name : String} (hname : name ∈ i.fields.map Prod.fst) (h : occurrences name inner ≠ 1) :
    read? text = none := by
  rw [read?, Json.read?_of_spells htext, Option.bind_some, Option.eq_none_iff_forall_ne_some]
  intro j hread
  exact h (ofDetails?_members (ofDetails?_of_ofJson? hread hcode hdetails) hname)

/-- Every incident comes back from the text that it is written as, which has its code, and from
every other text that gives it. A text is refused if a known member is not there once, in the
record or in the details of the kind that the code names, or if more than blanks follows. -/
theorem exchanged (i : Incident) :
    read? i.write = some i ∧
    (∃ members, Json.read? i.write = some (.object members) ∧
      members.lookup "code" = some (.string i.code)) ∧
    (∀ members text, Spells (.object members) text.toList → i.Gives members →
      read? text = some i) ∧
    (∀ members text, Spells (.object members) text.toList →
      occurrences "code" members ≠ 1 ∨ occurrences "details" members ≠ 1 →
      read? text = none) ∧
    (∀ members inner text, Spells (.object members) text.toList →
      ("code", .string i.code) ∈ members → ("details", .object inner) ∈ members →
      (∃ name ∈ i.fields.map Prod.fst, occurrences name inner ≠ 1) → read? text = none) ∧
    ∀ members text rest, Spells (.object members) text.toList → ¬ Blank rest.toList →
      read? (text ++ rest) = none := by
  obtain ⟨members, hjson, hgives, hcode⟩ := i.gives_toJson
  have hwritten : Spells (.object members) i.write.toList := hjson ▸ i.spells_write
  refine ⟨read?_of_gives hwritten hgives, ⟨members, Json.read?_of_spells hwritten, hcode⟩,
    fun _ _ htext h => read?_of_gives htext h, fun _ _ htext h => read?_of_members htext h,
    fun _ _ _ htext hcode hdetails ⟨_, hname, h⟩ => read?_of_details htext hcode hdetails hname h,
    fun _ text rest htext hrest => ?_⟩
  rw [read?, read?_trailing htext hrest]
  rfl

/-- A text with the details before the code, a member that is not known and code units. -/
def detailsFirst : String :=
  "\x7b\"details\": \x7b\"seen\":true,\"reason\":\"\\u0022\"," ++
    "\"url\":\"\\ud83d\\uDE00\"\x7d,\"code\":\"blockedByResponse\"\x7d"

theorem exchanged_details_first :
    read? detailsFirst = some (.blockedByResponse "😀" "\"") ∧
      read? (detailsFirst ++ "]") = none := by
  have hreason : Spells (.string "\"") "\"\\u0022\"".toList := by
    have hunit : CodeUnit '"'.toNat ['0', '0', '2', '2'] := ⟨rfl, by decide⟩
    have hspelled : Spelled "\"".toList "\\u0022".toList := .unit hunit .nil
    exact .string hspelled
  have hurl : Spells (.string "😀") "\"\\ud83d\\uDE00\"".toList := by
    have hhigh : CodeUnit (0xD800 + ('😀'.toNat - 0x10000) / 0x400) ['d', '8', '3', 'd'] :=
      ⟨rfl, by decide⟩
    have hlow : CodeUnit (0xDC00 + ('😀'.toNat - 0x10000) % 0x400) ['D', 'E', '0', '0'] :=
      ⟨rfl, by decide⟩
    have hspelled : Spelled "😀".toList "\\ud83d\\uDE00".toList :=
      .pair (by decide) hhigh hlow .nil
    exact .string hspelled
  have hinner := spells_tight
    [("seen", .bool true, "true".toList), ("reason", .string "\"", "\"\\u0022\"".toList),
      ("url", .string "😀", "\"\\ud83d\\uDE00\"".toList)]
    (by simp only [List.forall_mem_cons]; exact ⟨.true, hreason, hurl, List.forall_mem_nil _⟩)
  have hcode := spells_string "blockedByResponse"
  have houter := spells_tight
    [("details", _, [' '] ++ (_ ++ [])), ("code", _, "\"blockedByResponse\"".toList)]
    (by
      simp only [List.forall_mem_cons]
      exact ⟨.padded (List.forall_mem_singleton.mpr rfl) hinner (List.forall_mem_nil _), hcode,
        List.forall_mem_nil _⟩)
  have hgives : (blockedByResponse "😀" "\"").Gives
      [("details", .object [("seen", .bool true), ("reason", .string "\""),
        ("url", .string "😀")]), ("code", .string "blockedByResponse")] := by
    refine ⟨_, ⟨[("seen", .bool true)], List.reverse_perm _, ?_⟩, ⟨[], .swap _ _ [], ?_⟩⟩
    · exact List.forall_mem_singleton.mpr ⟨by decide, .bool true⟩
    · exact List.forall_mem_nil _
  have htext : Spells _ detailsFirst.toList := houter
  have hend : ¬ Blank "]".toList := fun h => absurd (h ']' List.mem_cons_self) (by decide)
  exact ⟨(exchanged _).2.2.1 _ detailsFirst htext hgives,
    (exchanged default).2.2.2.2.2 _ detailsFirst "]" htext hend⟩

end Incident

end Cadence
