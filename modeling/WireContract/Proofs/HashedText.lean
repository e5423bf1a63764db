import WireContract.CommandLine.Run
import WireContract.Proofs.Pictures

/-!
What the hashed text of a contract shows. It does not show where the project's name, its version and the
heading of an operation end; between contracts that agree on these, it shows all that is stored. Main
statement: `pretty_stored_of_hashedText`.
-/

namespace WireContract

namespace Endpoint

structure Heading where
  method : String
  url : String
  operationId : String
  controller : Option String
  summary : Option String

def heading (endpoint : Endpoint) : Heading :=
  ⟨endpoint.method, endpoint.url, endpoint.operationId, endpoint.controller, endpoint.summary⟩

/-- The fields of the responses are those of the statuses. -/
def ListsStatuses (endpoint : Endpoint) : Prop :=
  ∃ definitions responses, endpoint.response = Field.ofResponses definitions responses ∧
    endpoint.statuses = responses.keys

theorem listsStatuses_ofEntry (compiler : Compiler) (entry : Document.Entry) :
    (ofEntry compiler entry).ListsStatuses := ⟨_, _, rfl, rfl⟩

theorem names_ofResponses (definitions : Definitions) (responses : Dict SchemaNode) :
    (Field.ofResponses definitions responses).map Field.name =
      "rspHeaders" ::
        (responses.keys.map ("rsp" ++ ·) ++ if responses.keys = [] then [] else ["status"]) := by
  obtain ⟨entries, increasing⟩ := responses
  cases entries with
  | nil => rfl
  | cons first rest =>
    simp [Field.ofResponses, Field.responseHeaders, Field.ofResponse, Field.status, Definitions.describe,
      Field.new, Dict.keys, Dict.isEmpty]

theorem ListsStatuses.statuses_inj {endpoint other : Endpoint} (lists : endpoint.ListsStatuses)
    (otherLists : other.ListsStatuses)
    (names : endpoint.response.map Field.name = other.response.map Field.name) :
    endpoint.statuses = other.statuses := by
  obtain ⟨_, responses, isResponse, isStatuses⟩ := lists
  obtain ⟨_, otherResponses, otherIsResponse, otherIsStatuses⟩ := otherLists
  rw [isResponse, otherIsResponse, names_ofResponses, names_ofResponses, List.cons_inj_right] at names
  rw [isStatuses, otherIsStatuses]
  have prefixed (first second : String) : "rsp" ++ first = "rsp" ++ second → first = second :=
    fun same => (String.append_right_inj "rsp").mp same
  cases keys : responses.keys with
  | nil =>
    cases otherKeys : otherResponses.keys with
    | nil => rfl
    | cons second others =>
      have lengths := congrArg List.length names
      simp [keys, otherKeys] at lengths
  | cons first rest =>
    cases otherKeys : otherResponses.keys with
    | nil =>
      have lengths := congrArg List.length names
      simp [keys, otherKeys] at lengths
    | cons second others =>
      rw [keys, otherKeys, if_neg (List.cons_ne_nil _ _), if_neg (List.cons_ne_nil _ _)] at names
      exact (List.map_inj_right prefixed).mp (List.append_inj' names rfl).1

theorem toList_hashedText_append (endpoint : Endpoint) (rest : List Char) :
    endpoint.hashedText.toList ++ rest =
      (endpoint.method ++ endpoint.url ++ endpoint.operationId).toList ++
        ((Debug.fields endpoint.request).toList ++ ((Debug.fields endpoint.response).toList ++
          ((Debug.checkModel endpoint.check).toList ++ rest))) := by
  simp [hashedText, String.join_cons]

/-- Of two operations with one heading, the hashed text shows all their data. -/
theorem hashedText_append_inj {endpoint other : Endpoint} {rest otherRest : List Char}
    (lists : endpoint.ListsStatuses) (otherLists : other.ListsStatuses)
    (headings : endpoint.heading = other.heading)
    (same : endpoint.hashedText.toList ++ rest = other.hashedText.toList ++ otherRest) :
    endpoint.encode.spelling = other.encode.spelling ∧ rest = otherRest := by
  obtain ⟨methods, urls, ids, controllers, summaries⟩ := Heading.mk.inj headings
  rw [toList_hashedText_append, toList_hashedText_append, methods, urls, ids] at same
  obtain ⟨requests, behindRequest⟩ := Picture.ofField.listed_append_inj
    (Picture.ofRecord_text_ne Picture.isRecord_field) (List.append_cancel_left same)
  obtain ⟨responses, behindResponse⟩ := Picture.ofField.listed_append_inj
    (Picture.ofRecord_text_ne Picture.isRecord_field) behindRequest
  obtain ⟨checks, restSame⟩ := Picture.checkModel_append_inj behindResponse
  refine ⟨?_, restSame⟩
  have statuses : endpoint.statuses = other.statuses :=
    lists.statuses_inj otherLists (map_eq_of_map_eq (fun _ _ => Picture.field_name_inj) responses)
  have requestData : (Json.array (endpoint.request.map Field.encode)).spelling =
      (Json.array (other.request.map Field.encode)).spelling :=
    Json.spelling_array (Picture.ofField.shows_map requests)
  have responseData : (Json.array (endpoint.response.map Field.encode)).spelling =
      (Json.array (other.response.map Field.encode)).spelling :=
    Json.spelling_array (Picture.ofField.shows_map responses)
  rw [encode_eq, encode_eq]
  apply Json.spelling_ofMembers
  rw [methods, urls, ids, controllers, summaries, statuses]
  simp only [List.map_cons, Option.map_some, checks, requestData, responseData]

end Endpoint

namespace Contract

/-- Two contracts that agree on the project and on the headings of their operations. -/
structure SameHeadings (contract other : Contract) : Prop where
  name : contract.name = other.name
  version : contract.version = other.version
  operations : contract.operations.map Endpoint.heading = other.operations.map Endpoint.heading

theorem toList_hashedText (contract : Contract) :
    contract.hashedText.toList =
      (contract.name ++ contract.version).toList ++
        ((contract.operations.map Endpoint.hashedText).flatMap String.toList ++
          (Debug.models contract.models).toList) := by
  simp [hashedText]

theorem operations_append_inj {operations others : List Endpoint} {rest otherRest : List Char}
    (lists : ∀ endpoint ∈ operations, endpoint.ListsStatuses)
    (otherLists : ∀ endpoint ∈ others, endpoint.ListsStatuses)
    (headings : operations.map Endpoint.heading = others.map Endpoint.heading)
    (same : (operations.map Endpoint.hashedText).flatMap String.toList ++ rest =
      (others.map Endpoint.hashedText).flatMap String.toList ++ otherRest) :
    (operations.map Endpoint.encode).map Json.spelling = (others.map Endpoint.encode).map Json.spelling ∧
      rest = otherRest := by
  induction operations generalizing others with
  | nil =>
    obtain rfl := List.map_eq_nil_iff.mp headings.symm
    exact ⟨rfl, same⟩
  | cons endpoint operations ih =>
    cases others with
    | nil => cases headings
    | cons other others =>
      obtain ⟨heading, laterHeadings⟩ := List.cons.inj headings
      obtain ⟨isListed, laterLists⟩ := List.forall_mem_cons.mp lists
      obtain ⟨otherIsListed, laterOtherLists⟩ := List.forall_mem_cons.mp otherLists
      rw [List.map_cons, List.map_cons, List.flatMap_cons, List.flatMap_cons, List.append_assoc,
        List.append_assoc] at same
      obtain ⟨data, later⟩ := endpoint.hashedText_append_inj isListed otherIsListed heading same
      obtain ⟨laterData, restSame⟩ := ih laterLists laterOtherLists laterHeadings later
      refine ⟨?_, restSame⟩
      rw [List.map_cons, List.map_cons, List.map_cons, List.map_cons, data, laterData]

/-- Of two contracts with the same headings, the hashed text shows all that is stored. -/
theorem pretty_stored_of_hashedText {contract other : Contract}
    (lists : ∀ endpoint ∈ contract.operations, endpoint.ListsStatuses)
    (otherLists : ∀ endpoint ∈ other.operations, endpoint.ListsStatuses)
    (headings : contract.SameHeadings other) (same : contract.hashedText = other.hashedText) :
    (Command.stored contract).pretty = (Command.stored other).pretty := by
  have texts := congrArg String.toList same
  rw [toList_hashedText, toList_hashedText, headings.name, headings.version] at texts
  obtain ⟨operations, behind⟩ :=
    operations_append_inj lists otherLists headings.operations (List.append_cancel_left texts)
  have models : (Json.array (contract.models.map Model.encode)).spelling =
      (Json.array (other.models.map Model.encode)).spelling :=
    Picture.ofModels.shows _ _ (String.toList_inj.mp behind)
  have api : contract.encode.spelling = other.encode.spelling := by
    rw [encode_eq, encode_eq, headings.name, headings.version]
    apply Json.spelling_ofMembers
    simp only [List.map_cons, Option.map_some, Json.spelling_array operations, models]
  have whole : (Command.stored contract).spelling = (Command.stored other).spelling := by
    rw [Command.stored, Command.stored, contentHash, same, ← contentHash]
    apply Json.spelling_object
    simp only [List.map_cons, api]
  exact congrFun whole 0

end Contract
end WireContract
