import Mathlib.Data.List.Forall2
import WireContract.Proofs.LastWritten
import WireContract.Proofs.LetterCase
import WireContract.Proofs.Records
import WireContract.Request.Validation

namespace WireContract

namespace Text

def SameLetters (text other : String) : Prop :=
  List.Forall₂ (fun c d => d = c ∨ d = c.toLower ∨ d = c.toUpper) text.toList other.toList

theorem toLower_eq_iff {c d : Char} : c.toLower = d.toLower ↔ d = c ∨ d = c.toLower ∨ d = c.toUpper := by
  simp only [← Char.toNat_inj, toNat_toLower, toNat_toUpper]
  grind

theorem sameLetters_iff {text other : String} :
    SameLetters text other ↔ asciiLower text = asciiLower other := by
  rw [asciiLower, asciiLower, String.ofList_inj, ← List.forall₂_eq_eq_eq, List.forall₂_map_left_iff,
    List.forall₂_map_right_iff]
  simp only [toLower_eq_iff]
  rfl

theorem asciiLower_asciiLower (text : String) : asciiLower (asciiLower text) = asciiLower text := by
  rw [asciiLower, asciiLower, String.toList_ofList, List.map_map, String.ofList_inj]
  exact List.map_congr_left fun c _ => toLower_toLower c

end Text

namespace Dict

variable {α : Type}

/-- Of entries that are renamed alike the greatest is kept. -/
theorem get?_ofList_renamed_iff (rename : String → String) {entries : List (String × α)}
    (increasing : entries.Pairwise fun first second => first.1 < second.1) {key : String} {value : α} :
    (ofList (entries.map fun entry => (rename entry.1, entry.2))).get? key = some value ↔
      ∃ given, (given, value) ∈ entries ∧ rename given = key ∧
        ∀ other ∈ entries.map Prod.fst, rename other = key → other ≤ given := by
  induction entries with
  | nil => simp [ofList]
  | cons first rest ih =>
    obtain ⟨below, tail⟩ := List.pairwise_cons.mp increasing
    have above {name : String} (member : name ∈ rest.map Prod.fst) : first.1 < name := by
      obtain ⟨entry, isEntry, rfl⟩ := List.mem_map.mp member
      exact below entry isEntry
    have later_iff : (ofList (rest.map fun entry => (rename entry.1, entry.2))).get? key = none ↔
        ∀ other ∈ rest.map Prod.fst, rename other ≠ key := by
      simp [get?_ofList_eq_none_iff]
    rw [List.map_cons, get?_ofList_cons, Option.or_eq_some_iff, ih tail, later_iff,
      Option.ite_none_right_eq_some, Option.some_inj, List.map_cons]
    constructor
    · rintro (⟨given, isEntry, renamed, greatest⟩ | ⟨noLater, rfl, rfl⟩)
      · refine ⟨given, .tail _ isEntry, renamed, List.forall_mem_cons.mpr ⟨fun _ => ?_, greatest⟩⟩
        exact Std.le_of_lt (above (List.mem_map_of_mem isEntry))
      · refine ⟨first.1, .head _, rfl, List.forall_mem_cons.mpr ⟨fun _ => String.le_refl _, ?_⟩⟩
        exact fun other member same => absurd same (noLater other member)
    · rintro ⟨given, isEntry, renamed, ofAll⟩
      have greatest := (List.forall_mem_cons.mp ofAll).2
      rcases List.mem_cons.mp isEntry with rfl | later
      · -- the first entry is the least, so that none after it has its new name
        refine .inr ⟨fun other member same => ?_, renamed.symm, rfl⟩
        exact String.not_le.mpr (above member) (greatest other member same)
      · exact .inl ⟨given, later, renamed, greatest⟩

end Dict

namespace Request

theorem headers_normalizeHeaders (request : Request) :
    request.normalizeHeaders.headers =
      .ofList (request.headers.entries.map fun entry => (headerName entry.1, entry.2)) := rfl

/-- A header is looked up after its name is put in lower case, that of the greatest name with its letters. -/
theorem header?_normalizeHeaders (request : Request) {name : String} {value : Json} :
    request.normalizeHeaders.header? name = some value ↔
      ∃ given, request.headers.get? given = some value ∧ Text.SameLetters given name ∧
        ∀ other ∈ request.headers.keys, Text.SameLetters other name → other ≤ given := by
  simp only [Text.sameLetters_iff, Dict.get?_eq_some_iff]
  exact Dict.get?_ofList_renamed_iff headerName request.headers.increasing

theorem header?_normalizeHeaders_eq_none_iff (request : Request) {name : String} :
    request.normalizeHeaders.header? name = none ↔
      ∀ other ∈ request.headers.keys, ¬ Text.SameLetters other name := by
  rw [header?, headers_normalizeHeaders, Dict.get?_ofList_eq_none_iff]
  simp [Dict.keys, Text.sameLetters_iff, headerName]

theorem headerName_of_mem_normalizeHeaders {request : Request} {name : String}
    (member : name ∈ request.normalizeHeaders.headers.keys) : headerName name = name := by
  obtain ⟨entry, _, rfl⟩ := List.mem_map.mp (List.map_map ▸ Dict.mem_keys_ofList_iff.mp member)
  exact Text.asciiLower_asciiLower entry.1

theorem normalizeHeaders_normalizeHeaders (request : Request) :
    request.normalizeHeaders.normalizeHeaders = request.normalizeHeaders := by
  have kept : (request.normalizeHeaders.headers.entries.map fun entry => (headerName entry.1, entry.2)) =
      request.normalizeHeaders.headers.entries := by
    refine (List.map_congr_left fun entry member => ?_).trans (List.map_id _)
    exact Prod.ext (headerName_of_mem_normalizeHeaders (List.mem_map_of_mem member)) rfl
  have same : request.normalizeHeaders.normalizeHeaders.headers = request.normalizeHeaders.headers := by
    rw [headers_normalizeHeaders request.normalizeHeaders, kept, Dict.ofList_entries]
  exact congrArg (fun headers => { request with headers }) same

def HeadersAgree (request : Request) : Prop :=
  ∀ name other value held, request.headers.get? name = some value → request.headers.get? other = some held →
    Text.SameLetters name other → value = held

theorem get?_normalizeHeaders_iff {request : Request} (agree : request.HeadersAgree) {key : String}
    {value : Json} :
    request.normalizeHeaders.headers.get? key = some value ↔
      ∃ name, request.headers.get? name = some value ∧ headerName name = key := by
  constructor
  · intro found
    obtain ⟨entry, isEntry, same⟩ := List.mem_map.mp (Dict.mem_of_get?_ofList found)
    obtain ⟨renamed, rfl⟩ := Prod.mk.inj same
    exact ⟨entry.1, Dict.get?_eq_some_iff.mpr isEntry, renamed⟩
  · rintro ⟨name, found, rfl⟩
    have isEntry := Dict.get?_eq_some_iff.mp found
    apply Dict.get?_ofList_of_agree
    · exact List.mem_map.mpr ⟨_, List.mem_map.mpr ⟨_, isEntry, rfl⟩, rfl⟩
    · intro held member
      obtain ⟨entry, written, same⟩ := List.mem_map.mp member
      obtain ⟨renamed, rfl⟩ := Prod.mk.inj same
      exact agree entry.1 name _ _ (Dict.get?_eq_some_iff.mpr written) found (Text.sameLetters_iff.mpr renamed)

def HeadersApart (request : Request) : Prop :=
  ∀ name ∈ request.headers.keys, ∀ other ∈ request.headers.keys, Text.SameLetters name other → name = other

/-- The requests differ in the case of header names only. -/
structure Recased (request recased : Request) : Prop where
  query : request.query = recased.query
  params : request.params = recased.params
  body : request.body = recased.body
  forth : ∀ name value, request.headers.get? name = some value →
    ∃ other, recased.headers.get? other = some value ∧ Text.SameLetters name other
  back : ∀ other value, recased.headers.get? other = some value →
    ∃ name, request.headers.get? name = some value ∧ Text.SameLetters name other

theorem HeadersApart.agree {request : Request} (apart : request.HeadersApart) : request.HeadersAgree := by
  intro name other value held found foundOther same
  obtain rfl := apart name (Dict.mem_keys_iff.mpr ⟨value, found⟩) other
    (Dict.mem_keys_iff.mpr ⟨held, foundOther⟩) same
  exact Option.some.inj (found.symm.trans foundOther)

namespace Recased

variable {request recased : Request}

theorem agree (respelled : request.Recased recased) (agree : request.HeadersAgree) :
    recased.HeadersAgree := by
  intro name other value held found foundOther same
  obtain ⟨given, isGiven, sameGiven⟩ := respelled.back name value found
  obtain ⟨givenOther, isGivenOther, sameOther⟩ := respelled.back other held foundOther
  rw [Text.sameLetters_iff] at same sameGiven sameOther
  refine agree given givenOther value held isGiven isGivenOther (Text.sameLetters_iff.mpr ?_)
  rw [sameGiven, same, sameOther]

theorem normalizeHeaders_eq (respelled : request.Recased recased) (agree : request.HeadersAgree) :
    request.normalizeHeaders = recased.normalizeHeaders := by
  have headers : request.normalizeHeaders.headers = recased.normalizeHeaders.headers := by
    refine Dict.ext_get? fun key => Option.ext fun value => ?_
    rw [get?_normalizeHeaders_iff agree, get?_normalizeHeaders_iff (respelled.agree agree)]
    constructor
    · rintro ⟨name, found, rfl⟩
      obtain ⟨other, foundOther, same⟩ := respelled.forth name value found
      exact ⟨other, foundOther, (Text.sameLetters_iff.mp same).symm⟩
    · rintro ⟨other, found, rfl⟩
      obtain ⟨name, foundName, same⟩ := respelled.back other value found
      exact ⟨name, foundName, Text.sameLetters_iff.mp same⟩
  show Request.mk _ _ _ _ = Request.mk _ _ _ _
  rw [Request.mk.injEq]
  exact ⟨respelled.query, respelled.params, headers, respelled.body⟩

end Recased

end Request

namespace Lifecycle

theorem withHeader_eq_of_sameLetters {σ : Type} {header recased : String}
    (same : Text.SameLetters header recased) :
    (withHeader header : Lifecycle σ) = withHeader recased := by
  have token : (Validator.token header : Validator σ) = .token recased := by
    rw [Validator.token, Validator.token, Validator.tokenHeader, Validator.tokenHeader,
      Text.sameLetters_iff.mp same]
  rw [withHeader, withHeader, token]

end Lifecycle

namespace Request

/-- Headers are matched by the letters of their names. Of those with the letters of a name the greatest in
key order is kept, names in lower case stay as they are, and the built-in rules come to one outcome for
requests that differ in the case of header names only. -/
theorem headers_ignore_case (request : Request) :
    (∀ name value, request.normalizeHeaders.header? name = some value ↔
      ∃ given, request.headers.get? given = some value ∧ Text.SameLetters given name ∧
        ∀ other ∈ request.headers.keys, Text.SameLetters other name → other ≤ given) ∧
    (∀ name, request.normalizeHeaders.header? name = none ↔
      ∀ other ∈ request.headers.keys, ¬ Text.SameLetters other name) ∧
    request.normalizeHeaders.normalizeHeaders = request.normalizeHeaders ∧
    ∀ recased, request.Recased recased → request.HeadersApart → ∀ now model,
      (∀ lifecycle : Lifecycle Unit,
        lifecycle.validate now model request.normalizeHeaders =
          lifecycle.validate now model recased.normalizeHeaders) ∧
      ∀ header respelled, Text.SameLetters header respelled →
        (Lifecycle.withHeader header).validate now model request.normalizeHeaders =
          (Lifecycle.withHeader respelled).validate now model recased.normalizeHeaders := by
  refine ⟨fun _ _ => request.header?_normalizeHeaders, fun _ => request.header?_normalizeHeaders_eq_none_iff,
    request.normalizeHeaders_normalizeHeaders, fun recased alike apart now model => ?_⟩
  have same := alike.normalizeHeaders_eq apart.agree
  refine ⟨fun lifecycle => by rw [same], fun header respelled sameHeader => ?_⟩
  rw [same, Lifecycle.withHeader_eq_of_sameLetters sameHeader]

end Request

namespace Relay

def sent : Request :=
  { Request.empty with
    headers := .ofList [("X-Auth-Token", .string "abc"), ("accept", .string "text/html")] }

def relayed : Request :=
  { Request.empty with
    headers := .ofList [("x-auth-token", .string "abc"), ("Accept", .string "text/html")] }

def traced : Request :=
  { Request.empty with headers := .ofList [("X-Trace", .string "sent"), ("x-trace", .string "relayed")] }

theorem sent_recased : sent.Recased relayed := by
  have token : Text.SameLetters "X-Auth-Token" "x-auth-token" := Text.sameLetters_iff.mpr (by decide)
  have accept : Text.SameLetters "accept" "Accept" := Text.sameLetters_iff.mpr (by decide)
  have entries : sent.headers.entries =
      [("X-Auth-Token", .string "abc"), ("accept", .string "text/html")] := by rfl
  have others : relayed.headers.entries =
      [("Accept", .string "text/html"), ("x-auth-token", .string "abc")] := by rfl
  refine ⟨rfl, rfl, rfl, fun name value found => ?_, fun other value found => ?_⟩
  · rw [Dict.get?_eq_some_iff, entries] at found
    simp only [Dict.get?_eq_some_iff, others]
    rcases List.mem_pair.mp found with same | same <;> obtain ⟨rfl, rfl⟩ := Prod.mk.inj same
    · exact ⟨"x-auth-token", by simp, token⟩
    · exact ⟨"Accept", by simp, accept⟩
  · rw [Dict.get?_eq_some_iff, others] at found
    simp only [Dict.get?_eq_some_iff, entries]
    rcases List.mem_pair.mp found with same | same <;> obtain ⟨rfl, rfl⟩ := Prod.mk.inj same
    · exact ⟨"accept", by simp, accept⟩
    · exact ⟨"X-Auth-Token", by simp, token⟩

theorem sent_apart : sent.HeadersApart := by
  have keys : sent.headers.keys = ["X-Auth-Token", "accept"] := by rfl
  simp only [Request.HeadersApart, keys, Text.sameLetters_iff]
  decide

theorem relayed_alike :
    traced.normalizeHeaders.header? "X-TRACE" = some (.string "relayed") ∧
      sent.Recased relayed ∧ sent.HeadersApart ∧ Text.SameLetters "X-Auth-Token" "x-auth-token" ∧
        ∀ now model,
          (Lifecycle.withHeader "X-Auth-Token").validate now model sent.normalizeHeaders =
            (Lifecycle.withHeader "x-auth-token").validate now model relayed.normalizeHeaders := by
  have token : Text.SameLetters "X-Auth-Token" "x-auth-token" := Text.sameLetters_iff.mpr (by decide)
  have keys : traced.headers.keys = ["X-Trace", "x-trace"] := by rfl
  refine ⟨?_, sent_recased, sent_apart, token, fun now model => ?_⟩
  · refine (traced.headers_ignore_case.1 "X-TRACE" _).mpr ⟨"x-trace", rfl, ?_, ?_⟩
    · exact Text.sameLetters_iff.mpr (by decide)
    · rw [keys]
      exact fun other member _ => (by decide : ∀ name ∈ ["X-Trace", "x-trace"], name ≤ "x-trace") other member
  · exact (sent.headers_ignore_case.2.2.2 relayed sent_recased sent_apart now model).2 _ _ token

end Relay

end WireContract
