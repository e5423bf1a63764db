import Mathlib.Data.List.Nodup
import Mathlib.Data.List.Pairwise
import WireContract.Contract.OfDocument

namespace WireContract

namespace Method

theorem name_injective {method other : Method} (same : method.name = other.name) : method = other := by
  cases method <;> cases other <;> first | rfl | exact absurd same (by decide)

theorem blank_notMem_name (method : Method) : ' ' ∉ method.name.toList := by
  cases method <;> decide

end Method

namespace Endpoint

theorem toList_defaultId (method url : String) :
    (defaultId method url).toList = method.toList ++ ' ' :: url.toList := by
  simp [defaultId]

/-- An id that is made up says method and URL, since no method has a blank in it. -/
theorem defaultId_eq_iff {method other : Method} {url otherUrl : String} :
    defaultId method.name url = defaultId other.name otherUrl ↔ method = other ∧ url = otherUrl := by
  refine ⟨fun same => ?_, fun ⟨sameMethod, sameUrl⟩ => by rw [sameMethod, sameUrl]⟩
  have texts := congrArg String.toList same
  rw [toList_defaultId, toList_defaultId] at texts
  have front (method : Method) (url : String) :
      (method.name.toList ++ ' ' :: url.toList).takeWhile (· != ' ') = method.name.toList := by
    rw [List.takeWhile_append_of_pos, List.takeWhile_cons_of_neg (by decide), List.append_nil]
    intro c member
    exact bne_iff_ne.mpr fun isBlank => method.blank_notMem_name (isBlank ▸ member)
  have names : method.name.toList = other.name.toList := by
    rw [← front method url, texts, front]
  rw [names, List.append_cancel_left_eq, List.cons.injEq] at texts
  exact ⟨Method.name_injective (String.toList_inj.mp names), String.toList_inj.mp texts.2⟩

end Endpoint

namespace PathItem

theorem mem_operations_iff {item : PathItem} {method : Method} {operation : Operation} :
    (method, operation) ∈ item.operations ↔ item.operation? method = some operation := by
  rw [operations, List.mem_filterMap]
  constructor
  · rintro ⟨_, _, isThere⟩
    obtain ⟨_, found, same⟩ := Option.map_eq_some_iff.mp isThere
    cases same
    exact found
  · intro found
    exact ⟨method, by cases method <;> decide, by rw [found]; rfl⟩

theorem nodup_methods (item : PathItem) : (item.operations.map Prod.fst).Nodup := by
  rw [operations, List.map_filterMap]
  have itself {method found : Method}
      (isFound : ((item.operation? method).map fun operation => (method, operation)).map Prod.fst = some found) :
      found = method := by
    obtain ⟨_, isPair, rfl⟩ := Option.map_eq_some_iff.mp isFound
    obtain ⟨_, _, rfl⟩ := Option.map_eq_some_iff.mp isPair
    rfl
  refine List.Nodup.filterMap (fun method other found isFirst isSecond => ?_) (by decide : Method.all.Nodup)
  exact (itself isFirst).symm.trans (itself isSecond)

end PathItem

namespace Document

variable {document : Document} {path other : String} {method : Method} {operation : Operation}

def located (document : Document) : List (String × Entry) :=
  document.paths.entries.flatMap fun (path, item) =>
    item.operations.map fun (method, operation) =>
      (path, ⟨document.fullUrl path, method, item, operation⟩)

theorem map_located (document : Document) : document.located.map Prod.snd = document.entries := by
  rw [located, List.map_flatMap]
  simp only [List.map_map]
  rfl

theorem mem_located_iff {entry : Entry} :
    (path, entry) ∈ document.located ↔
      document.paths.get? path = some entry.item ∧
        entry.item.operation? entry.method = some entry.operation ∧ entry.url = document.fullUrl path := by
  obtain ⟨url, method, item, operation⟩ := entry
  simp only [located, List.mem_flatMap, List.mem_map, Prod.exists, Prod.mk.injEq, Entry.mk.injEq,
    PathItem.mem_operations_iff, Dict.get?_eq_some_iff]
  constructor
  · rintro ⟨_, _, isItem, _, _, isOperation, rfl, rfl, rfl, rfl, rfl⟩
    exact ⟨isItem, isOperation, rfl⟩
  · rintro ⟨isItem, isOperation, rfl⟩
    exact ⟨path, item, isItem, method, operation, isOperation, rfl, rfl, rfl, rfl, rfl⟩

theorem nodup_places (document : Document) :
    (document.located.map fun place => (place.1, place.2.method)).Nodup := by
  have places : document.located.map (fun place => (place.1, place.2.method)) =
      document.paths.entries.flatMap fun (path, item) =>
        (item.operations.map Prod.fst).map fun method => (path, method) := by
    rw [located, List.map_flatMap]
    simp only [List.map_map]
    rfl
  rw [places, List.nodup_flatMap]
  constructor
  · rintro ⟨path, item⟩ _
    exact item.nodup_methods.map fun _ _ same => (Prod.mk.inj same).2
  · refine document.paths.increasing.imp ?_
    rintro ⟨path, item⟩ ⟨other, otherItem⟩ below place inFirst inSecond
    obtain ⟨_, _, rfl⟩ := List.mem_map.mp inFirst
    obtain ⟨_, _, same⟩ := List.mem_map.mp inSecond
    rw [(Prod.mk.inj same).1] at below
    exact String.lt_irrefl _ below

def selected (document : Document) (selection : Selection) : List (String × Entry) :=
  document.located.filter fun place => selection.selects place.2.url place.2.method.name

def Selects (document : Document) (selection : Selection) (path : String) (method : Method)
    (operation : Operation) : Prop :=
  (∃ item, document.paths.get? path = some item ∧ item.operation? method = some operation) ∧
    selection.selects (document.fullUrl path) method.name = true

variable {selection : Selection}

theorem mem_selected_iff {entry : Entry} :
    (path, entry) ∈ document.selected selection ↔
      document.paths.get? path = some entry.item ∧
        entry.item.operation? entry.method = some entry.operation ∧
        entry.url = document.fullUrl path ∧
        selection.selects (document.fullUrl path) entry.method.name = true := by
  rw [selected, List.mem_filter, mem_located_iff, and_assoc, and_assoc]
  refine and_congr_right fun _ => and_congr_right fun _ => and_congr_right fun isUrl => ?_
  rw [isUrl]

theorem selects_of_mem {entry : Entry} (member : (path, entry) ∈ document.selected selection) :
    document.Selects selection path entry.method entry.operation := by
  obtain ⟨isItem, isOperation, _, isSelected⟩ := mem_selected_iff.mp member
  exact ⟨⟨entry.item, isItem, isOperation⟩, isSelected⟩

theorem Selects.exists_mem (selects : document.Selects selection path method operation) :
    ∃ item, (path, ⟨document.fullUrl path, method, item, operation⟩) ∈ document.selected selection := by
  obtain ⟨⟨item, isItem, isOperation⟩, isSelected⟩ := selects
  exact ⟨item, mem_selected_iff.mpr ⟨isItem, isOperation, rfl, isSelected⟩⟩

theorem eq_of_place_eq {first second : Entry} (isFirst : (path, first) ∈ document.selected selection)
    (isSecond : (other, second) ∈ document.selected selection) (samePath : path = other)
    (sameMethod : first.method = second.method) : (path, first) = (other, second) :=
  List.inj_on_of_nodup_map document.nodup_places (List.mem_filter.mp isFirst).1
    (List.mem_filter.mp isSecond).1 (Prod.ext samePath sameMethod)

def ownIds (document : Document) : List String :=
  document.entries.filterMap fun entry => entry.operation.operationId

theorem eq_of_ownId_eq (distinct : document.ownIds.Nodup) {first second : String × Entry}
    (isFirst : first ∈ document.selected selection) (isSecond : second ∈ document.selected selection)
    {id : String} (isId : first.2.operation.operationId = some id)
    (isSame : second.2.operation.operationId = some id) : first = second := by
  rw [ownIds, ← map_located, List.filterMap_map, List.Nodup, List.pairwise_filterMap] at distinct
  have symmetric : Std.Symm fun first second : String × Entry =>
      first.2.operation.operationId = some id → second.2.operation.operationId = some id →
        first = second :=
    ⟨fun _ _ same isId isSame => (same isSame isId).symm⟩
  have apart : document.located.Pairwise fun first second =>
      first.2.operation.operationId = some id → second.2.operation.operationId = some id →
        first = second :=
    distinct.imp fun differ isThis isThat => absurd rfl (differ id isThis id isThat)
  exact List.Pairwise.forall_of_forall (fun _ _ _ _ => rfl) apart (List.mem_filter.mp isFirst).1
    (List.mem_filter.mp isSecond).1 isId isSame

/-- What tells selected operations apart of which not all have ids of their own. -/
structure TellsApart (document : Document) (selection : Selection) : Prop where
  unnamed : ∀ {path other : String} {method : Method} {first second : Operation},
    document.Selects selection path method first → document.Selects selection other method second →
    first.operationId = none → second.operationId = none →
    document.fullUrl path = document.fullUrl other → path = other
  named : ∀ {path other : String} {method otherMethod : Method} {first second : Operation},
    document.Selects selection path method first → document.Selects selection other otherMethod second →
    first.operationId = none →
    second.operationId ≠ some (Endpoint.defaultId method.name (document.fullUrl path))

namespace Entry

def id (entry : Entry) : String :=
  entry.operation.operationId.getD (Endpoint.defaultId entry.method.name entry.url)

end Entry

theorem nodup_ids_iff (distinct : document.ownIds.Nodup) :
    ((document.selected selection).map fun place => place.2.id).Nodup ↔
      document.TellsApart selection := by
  have nodup : (document.selected selection).Nodup := (document.nodup_places.of_map _).filter _
  rw [List.nodup_map_iff_inj_on nodup]
  constructor
  · intro apart
    constructor
    case unnamed =>
      intro path other method first second isFirst isSecond noId noOther sameUrl
      obtain ⟨_, isFirst⟩ := isFirst.exists_mem
      obtain ⟨_, isSecond⟩ := isSecond.exists_mem
      have same := apart _ isFirst _ isSecond (by simp only [Entry.id, noId, noOther, sameUrl])
      exact congrArg Prod.fst same
    case named =>
      intro path other method otherMethod first second isFirst isSecond noId isId
      obtain ⟨_, isFirst⟩ := isFirst.exists_mem
      obtain ⟨_, isSecond⟩ := isSecond.exists_mem
      have same := apart _ isFirst _ isSecond (by simp only [Entry.id, noId, isId]; rfl)
      have sameId := congrArg (fun place => place.2.operation.operationId) same
      simp only [noId, isId] at sameId
      cases sameId
  · intro apart ⟨path, first⟩ isFirst ⟨other, second⟩ isSecond same
    have firstUrl := (mem_selected_iff.mp isFirst).2.2.1
    have secondUrl := (mem_selected_iff.mp isSecond).2.2.1
    simp only [Entry.id, firstUrl, secondUrl] at same
    cases isId : first.operation.operationId with
    | some id =>
      cases isOther : second.operation.operationId with
      | some other =>
        rw [isId, isOther, Option.getD_some, Option.getD_some] at same
        exact eq_of_ownId_eq distinct isFirst isSecond isId (same ▸ isOther)
      | none =>
        rw [isId, isOther, Option.getD_some, Option.getD_none] at same
        exact absurd (isId.trans (congrArg some same))
          (apart.named (selects_of_mem isSecond) (selects_of_mem isFirst) isOther)
    | none =>
      cases isOther : second.operation.operationId with
      | some other =>
        rw [isId, isOther, Option.getD_some, Option.getD_none] at same
        exact absurd (isOther.trans (congrArg some same.symm))
          (apart.named (selects_of_mem isFirst) (selects_of_mem isSecond) isId)
      | none =>
        rw [isId, isOther, Option.getD_none, Option.getD_none, Endpoint.defaultId_eq_iff] at same
        obtain ⟨sameMethod, sameUrl⟩ := same
        have samePath := apart.unnamed (selects_of_mem isFirst) (sameMethod ▸ selects_of_mem isSecond)
          isId isOther sameUrl
        exact eq_of_place_eq isFirst isSecond samePath sameMethod

section Urls

theorem exists_dropRepeated_append (front : List Char) :
    ∃ kept, ∀ back : List Char, back.head? = some '/' →
      dropRepeated (front ++ back) = kept ++ dropRepeated back := by
  induction front with
  | nil => exact ⟨[], fun _ _ => rfl⟩
  | cons c rest ih =>
    obtain ⟨kept, keeps⟩ := ih
    have next (back : List Char) (rooted : back.head? = some '/') :
        (rest ++ back).head? = rest.head?.or (some '/') := by
      rw [List.head?_append, rooted]
    by_cases dropped : (c = '/' && rest.head?.or (some '/') == some '/') = true
    · refine ⟨kept, fun back rooted => ?_⟩
      rw [List.cons_append, dropRepeated, next back rooted, if_pos dropped, keeps back rooted]
    · refine ⟨c :: kept, fun back rooted => ?_⟩
      rw [List.cons_append, dropRepeated, next back rooted, if_neg dropped, keeps back rooted,
        List.cons_append]

theorem dropRepeated_of_single {text : List Char} (single : ¬ ['/', '/'] <:+: text) :
    dropRepeated text = text := by
  induction text with
  | nil => rfl
  | cons c rest ih =>
    have later : ¬ ['/', '/'] <:+: rest := fun inside => single (inside.trans (List.suffix_cons c rest).isInfix)
    rw [dropRepeated, if_neg, ih later]
    intro dropped
    obtain ⟨isSlash, isNext⟩ := Bool.and_eq_true_iff.mp dropped
    obtain ⟨more, rfl⟩ := List.head?_eq_some_iff.mp (beq_iff_eq.mp isNext)
    rw [of_decide_eq_true isSlash] at single
    exact single ⟨[], more, rfl⟩

theorem exists_fullUrl_eq (document : Document) :
    ∃ front : String, ∀ path, document.fullUrl path = collapseSlashes (front ++ path) := by
  unfold fullUrl
  cases document.basePath with
  | none => exact ⟨"", fun path => by rw [String.empty_append]⟩
  | some base =>
    by_cases isRoot : (base == "" || base == "/") = true
    · exact ⟨"", fun path => by rw [String.empty_append]; exact if_pos isRoot⟩
    · exact ⟨base, fun path => if_neg isRoot⟩

/-- Two paths that start with a slash have one URL, behind any base, exactly if they differ in nothing but
repeated slashes. -/
theorem fullUrl_eq_iff (document : Document) (rooted : path.toList.head? = some '/')
    (otherRooted : other.toList.head? = some '/') :
    document.fullUrl path = document.fullUrl other ↔ collapseSlashes path = collapseSlashes other := by
  obtain ⟨front, isFront⟩ := document.exists_fullUrl_eq
  obtain ⟨kept, keeps⟩ := exists_dropRepeated_append front.toList
  rw [isFront, isFront, collapseSlashes, collapseSlashes, collapseSlashes, collapseSlashes,
    String.toList_append, String.toList_append, keeps _ rooted, keeps _ otherRooted,
    String.ofList_inj, String.ofList_inj, List.append_cancel_left_eq]

end Urls

/-- A document as they mostly are: no id has a blank in it, and paths start with a slash and repeat none. -/
structure Tidy (document : Document) : Prop where
  words : ∀ id ∈ document.ownIds, ' ' ∉ id.toList
  rooted : ∀ path ∈ document.paths.keys, path.toList.head? = some '/'
  single : ∀ path ∈ document.paths.keys, ¬ ['/', '/'] <:+: path.toList

theorem Selects.mem_keys (selects : document.Selects selection path method operation) :
    path ∈ document.paths.keys := by
  obtain ⟨⟨item, isItem, _⟩, _⟩ := selects
  exact List.mem_map.mpr ⟨(path, item), Dict.get?_eq_some_iff.mp isItem, rfl⟩

theorem Selects.mem_ownIds {id : String} (selects : document.Selects selection path method operation)
    (isId : operation.operationId = some id) : id ∈ document.ownIds := by
  obtain ⟨item, member⟩ := selects.exists_mem
  rw [ownIds, ← map_located]
  exact List.mem_filterMap.mpr ⟨_, List.mem_map_of_mem (List.mem_filter.mp member).1, isId⟩

theorem Tidy.tellsApart (tidy : document.Tidy) (selection : Selection) : document.TellsApart selection where
  unnamed := by
    intro path other method first second isFirst isSecond _ _ sameUrl
    have isPath := isFirst.mem_keys
    have isOther := isSecond.mem_keys
    rw [document.fullUrl_eq_iff (tidy.rooted _ isPath) (tidy.rooted _ isOther), collapseSlashes,
      collapseSlashes, dropRepeated_of_single (tidy.single _ isPath),
      dropRepeated_of_single (tidy.single _ isOther), String.ofList_inj, String.toList_inj] at sameUrl
    exact sameUrl
  named := by
    intro path other method otherMethod first second _ isSecond _ isId
    refine tidy.words _ (isSecond.mem_ownIds isId) ?_
    rw [Endpoint.toList_defaultId]
    exact List.mem_append_right _ (.head _)

end Document

namespace Contract

theorem ids_ofDocument (contractor : Contractor) (document : Document) :
    (ofDocument contractor document).operations.map Endpoint.operationId =
      (document.selected contractor.filter).map fun place => place.2.id := by
  rw [ofDocument, ← document.map_located, List.filter_map, List.map_map, List.map_map]
  rfl

theorem operation?_of_nodup {contract : Contract} (distinct : (contract.operations.map Endpoint.operationId).Nodup)
    {endpoint : Endpoint} (member : endpoint ∈ contract.operations) :
    contract.operation? endpoint.operationId = some endpoint := by
  cases found : contract.operation? endpoint.operationId with
  | none => exact absurd (List.find?_eq_none.mp found endpoint member) (by simp)
  | some other =>
    have sameId : other.operationId = endpoint.operationId := by simpa using List.find?_some found
    rw [List.inj_on_of_nodup_map distinct (List.mem_of_find?_eq_some found) member sameId]

/-- Of a document whose operations have distinct ids where they have one of their own, the selected operations
have distinct ids in the contract exactly if no two without an id have one method and full URL and none has
as its own id the method and full URL of one without. Then every one of them is found by its id. Documents are
so in which no id holds a blank and every path starts with a slash and repeats none. -/
theorem ids_distinct_iff (contractor : Contractor) {document : Document}
    (distinct : document.ownIds.Nodup) :
    let contract := ofDocument contractor document
    ((contract.operations.map Endpoint.operationId).Nodup ↔ document.TellsApart contractor.filter) ∧
      (document.TellsApart contractor.filter →
        ∀ endpoint ∈ contract.operations, contract.operation? endpoint.operationId = some endpoint) ∧
      (document.Tidy → document.TellsApart contractor.filter) := by
  intro contract
  have ids : (contract.operations.map Endpoint.operationId).Nodup ↔
      document.TellsApart contractor.filter := by
    rw [ids_ofDocument, Document.nodup_ids_iff distinct]
  exact ⟨ids, fun apart endpoint member => operation?_of_nodup (ids.mpr apart) member,
    fun tidy => tidy.tellsApart contractor.filter⟩

end Contract

namespace Orders

def contractor : Contractor := .default (Lifecycle.default : Lifecycle Unit).folding

def item (summary : String) (added : Option String) : PathItem where
  operation?
    | .get => some ⟨none, [], some summary, [], ∅⟩
    | .post => added.map fun id => ⟨some id, [], none, [], ∅⟩
    | _ => none
  parameters := []

def document : Document :=
  ⟨some "/api/", ∅, Dict.ofList [("/orders", item "all" (some "addOrder")), ("/orders/new", item "new" none)]⟩

def doubled : Document :=
  ⟨some "/api/", ∅, Dict.ofList [("/orders", item "all" none), ("//orders", item "new" none)]⟩

theorem orders_found :
    let contract := Contract.ofDocument contractor document
    document.ownIds.Nodup ∧ document.Tidy ∧
      contract.operations.map Endpoint.operationId =
        ["get /api/orders", "addOrder", "get /api/orders/new"] ∧
      (contract.operations.map Endpoint.operationId).Nodup ∧
      ∀ endpoint ∈ contract.operations, contract.operation? endpoint.operationId = some endpoint := by
  intro contract
  have ownIds : document.ownIds = ["addOrder"] := rfl
  have distinct : document.ownIds.Nodup := by rw [ownIds]; decide
  have keys : document.paths.keys = ["/orders", "/orders/new"] := rfl
  have tidy : document.Tidy := ⟨by rw [ownIds]; decide, by rw [keys]; decide, by rw [keys]; decide +kernel⟩
  obtain ⟨ids, found, apart⟩ := Contract.ids_distinct_iff contractor distinct
  exact ⟨distinct, tidy, rfl, ids.mpr (apart tidy), found (apart tidy)⟩

/-- Where a path repeats a slash, its operation has the id of another, under which that one is found. -/
theorem orders_share_id :
    let contract := Contract.ofDocument contractor doubled
    doubled.ownIds.Nodup ∧
      contract.operations.map Endpoint.operationId = ["get /api/orders", "get /api/orders"] ∧
      ¬ (contract.operations.map Endpoint.operationId).Nodup ∧
      ∃ endpoint ∈ contract.operations, contract.operation? endpoint.operationId ≠ some endpoint := by
  intro contract
  have ids : contract.operations.map Endpoint.operationId = ["get /api/orders", "get /api/orders"] := rfl
  have summaries : contract.operations.map Endpoint.summary = [some "new", some "all"] := rfl
  have first : (contract.operation? "get /api/orders").map Endpoint.summary = some (some "new") := rfl
  have isListed : some "all" ∈ contract.operations.map Endpoint.summary := by rw [summaries]; decide
  obtain ⟨endpoint, member, isAll⟩ := List.mem_map.mp isListed
  have isId : endpoint.operationId = "get /api/orders" := by
    have isId := List.mem_map_of_mem (f := Endpoint.operationId) member
    rw [ids] at isId
    simpa using isId
  refine ⟨.nil, ids, by rw [ids]; decide, endpoint, member, fun found => ?_⟩
  rw [← isId, found, Option.map_some, isAll] at first
  exact absurd first (by decide)

end Orders
end WireContract
