import WireContract.Mapping.Binding

/-!
What is taken out of a request that is bound to a model. A property takes the value at the first of its
places that offers one, and what has been taken is gone for the properties after it. Main statements:
`take_eq`, what a single property takes, and `bind_takes_once`.
-/

namespace WireContract

namespace Dict

variable {α : Type} {values : Dict α} {keep : String → α → Bool}

theorem filter_eq_self (all : ∀ key value, keep key value = true) : values.filter keep = values := by
  ext key : 1
  rw [get?_filter]
  cases values.get? key <;> simp [all]

theorem erase_eq_filter (values : Dict α) (key : String) :
    values.erase key = values.filter fun other _ => !decide (other = key) := by
  ext other : 1
  rw [get?_filter, get?_erase]
  cases values.get? other with
  | none => simp
  | some value => by_cases same : other = key <;> simp [Option.filter, same]

theorem filter_filter {other both : String → α → Bool}
    (agree : ∀ key value, both key value = (keep key value && other key value)) :
    (values.filter keep).filter other = values.filter both := by
  ext key : 1
  simp only [get?_filter]
  cases values.get? key with
  | none => rfl
  | some value => cases kept : keep key value <;> simp [Option.filter, kept, agree]

end Dict

namespace Request

inductive Place
  | query (key : String)
  | header (key : String)
  | param (key : String)
  | body
  deriving DecidableEq

/-- The value that can be taken from a place: an entry that counts as given, or a body that is not null. -/
def offers? (request : Request) : Place → Option Json
  | .query key => (request.query.get? key).filter Json.isPresent
  | .header key => (request.headers.get? key).filter Json.isPresent
  | .param key => (request.params.get? key).filter Json.isPresent
  | .body => if request.body.isNull then none else some request.body

def without (request : Request) (places : List Place) : Request where
  query := request.query.filter fun key _ => !places.contains (.query key)
  params := request.params.filter fun key _ => !places.contains (.param key)
  headers := request.headers.filter fun key _ => !places.contains (.header key)
  body := if places.contains .body then .object [] else request.body

/-- The places where a property is looked for, in order: that of its location, and then the path
parameter. -/
def placesOf (location : Location) (name : String) : List Place :=
  match location with
  | .query => [.query name, .param name]
  | .header => [.header (headerName name), .param name]
  | .body => [.body, .param name]
  | .path | .definitions => [.param name]

def find? (request : Request) (places : List Place) : Option (Place × Json) :=
  places.findSome? fun place => (request.offers? place).map (Prod.mk place)

variable (request : Request)

theorem without_nil : request.without [] = request := by
  simp [without, Dict.filter_eq_self]

theorem without_query (key : String) :
    request.without [.query key] = { request with query := request.query.erase key } := by
  simp [without, Dict.filter_eq_self, Dict.erase_eq_filter]

theorem without_header (key : String) :
    request.without [.header key] = { request with headers := request.headers.erase key } := by
  simp [without, Dict.filter_eq_self, Dict.erase_eq_filter]

theorem without_param (key : String) :
    request.without [.param key] = { request with params := request.params.erase key } := by
  simp [without, Dict.filter_eq_self, Dict.erase_eq_filter]

theorem without_body : request.without [.body] = { request with body := .object [] } := by
  simp [without, Dict.filter_eq_self]

theorem without_without (front back : List Place) :
    (request.without front).without back = request.without (front ++ back) := by
  have either (place : Place) :
      (!(front ++ back).contains place) = (!front.contains place && !back.contains place) := by
    simp
  simp only [without, Dict.filter_filter fun key _ => either _]
  congr 1
  simp only [List.contains_iff_mem, List.mem_append]
  by_cases later : Place.body ∈ back <;> simp [later]

theorem offers?_without (places : List Place) (place : Place) :
    (request.without places).offers? place =
      if place ∈ places then if place = .body then some (.object []) else none
      else request.offers? place := by
  by_cases taken : place ∈ places
  · cases place with
    | body =>
      simp only [offers?, without, List.contains_iff_mem, taken, if_true]
      rfl
    | query | header | param => simp [offers?, without, Dict.get?_filter, taken]
  · cases place with
    | body => simp only [offers?, without, List.contains_iff_mem, taken, if_false]
    | query | header | param => simp [offers?, without, Dict.get?_filter, taken]

theorem takeFrom_eq (values : Dict Json) (key : String) :
    takeFrom values key =
      ((values.get? key).filter Json.isPresent).map fun value => (value, values.erase key) := by
  unfold takeFrom
  cases values.get? key with
  | none => rfl
  | some value => by_cases present : value.isPresent = true <;> simp [Option.filter, present]

theorem take_eq (location : Location) (name : String) :
    request.take location name =
      match request.find? (placesOf location name) with
      | some (place, value) => (some value, request.without [place])
      | none => (none, request) := by
  have ofParam : request.takeParam name =
      match request.find? [.param name] with
      | some (place, value) => (some value, request.without [place])
      | none => (none, request) := by
    simp only [takeParam, takeFrom_eq, find?, List.findSome?_cons, List.findSome?_nil, offers?]
    cases (request.params.get? name).filter Json.isPresent with
    | none => rfl
    | some value => exact congrArg (Prod.mk (some value)) (request.without_param name).symm
  have first (place : Place) (others : List Place) :
      request.find? (place :: others) =
        ((request.offers? place).map (Prod.mk place)).or (request.find? others) := by
    simp only [find?, List.findSome?_cons]
    cases request.offers? place <;> rfl
  cases location with
  | query =>
    rw [placesOf, first, take, takeFrom_eq, offers?]
    cases (request.query.get? name).filter Json.isPresent with
    | none => exact ofParam
    | some value => exact congrArg (Prod.mk (some value)) (request.without_query name).symm
  | header =>
    rw [placesOf, first, take, takeFrom_eq, offers?]
    cases (request.headers.get? (headerName name)).filter Json.isPresent with
    | none => exact ofParam
    | some value => exact congrArg (Prod.mk (some value)) (request.without_header _).symm
  | body =>
    rw [placesOf, first, take, offers?]
    by_cases absent : request.body.isNull = true
    · simp only [absent, if_true]
      exact ofParam
    · simp only [absent]
      exact congrArg (Prod.mk (some request.body)) request.without_body.symm
  | path => exact ofParam
  | definitions => exact ofParam

end Request

structure Taking (κ : Type) where
  property : Property κ
  place : Request.Place
  value : Json

namespace Tables

variable {κ : Type} (tables : Tables κ)

def taking? (request : Request) (property : Property κ) : Option (Taking κ) :=
  property.location.bind fun location =>
    (request.find? (Request.placesOf location property.wireName)).map fun (place, value) =>
      ⟨property, place, value⟩

def takings (request : Request) : List (Property κ) → List (Taking κ)
  | [] => []
  | property :: rest =>
    match taking? request property with
    | some taking => taking :: takings (request.without [taking.place]) rest
    | none => takings request rest

def write (bound : Dict Json) (taking : Taking κ) : Dict Json :=
  bound.insert taking.property.name
    (tables.inbound taking.value (tables.tableOf (some taking.property)) taking.value)

theorem bind_eq (bound : Dict Json) (request : Request) (properties : List (Property κ)) :
    tables.bind bound request properties =
      ((takings request properties).foldl tables.write bound,
        request.without ((takings request properties).map Taking.place)) := by
  induction properties generalizing bound request with
  | nil => rw [bind, takings, List.foldl_nil, List.map_nil, Request.without_nil]
  | cons property rest ih =>
    rw [bind, takings, taking?]
    cases property.location with
    | none => exact ih bound request
    | some location =>
      rw [Option.bind_some]
      simp only [Request.take_eq]
      cases request.find? (Request.placesOf location property.wireName) with
      | none => exact ih bound request
      | some found =>
        simp only [ih, Option.map_some, List.foldl_cons, List.map_cons, Request.without_without,
          List.singleton_append]
        rfl

theorem offered_of_taking? {request : Request} {property : Property κ} {taking : Taking κ}
    (takes : taking? request property = some taking) :
    taking.property = property ∧ ∃ location tried untried, property.location = some location ∧
      Request.placesOf location property.wireName = tried ++ taking.place :: untried ∧
      request.offers? taking.place = some taking.value ∧ ∀ place ∈ tried, request.offers? place = none := by
  obtain ⟨location, isLocation, takes⟩ := Option.bind_eq_some_iff.mp takes
  obtain ⟨found, finds, rfl⟩ := Option.map_eq_some_iff.mp takes
  obtain ⟨tried, place, untried, places, isFound, notBefore⟩ := List.findSome?_eq_some_iff.mp finds
  obtain ⟨value, offers, rfl⟩ := Option.map_eq_some_iff.mp isFound
  refine ⟨rfl, location, tried, untried, isLocation, places, offers, ?_⟩
  intro other isTried
  exact Option.map_eq_none_iff.mp (notBefore other isTried)

/-- A property takes at most once, and only if it has a location. -/
theorem sublist_takings (request : Request) (properties : List (Property κ)) :
    ((takings request properties).map Taking.property).Sublist
      (properties.filter fun property => property.location.isSome) := by
  induction properties generalizing request with
  | nil => exact .slnil
  | cons property rest ih =>
    rw [takings]
    cases takes : taking? request property with
    | none =>
      refine (ih request).trans ?_
      exact (List.sublist_cons_self property rest).filter _
    | some taking =>
      obtain ⟨isProperty, location, _, _, isLocation, _⟩ := offered_of_taking? takes
      have located : property.location.isSome = true := by rw [isLocation, Option.isSome_some]
      dsimp only
      rw [List.filter_cons, if_pos located, List.map_cons, isProperty]
      exact (ih _).cons_cons property

/-- Every property takes what it finds in the request as those before it have left it. -/
theorem taking?_of_takings {request : Request} {properties : List (Property κ)}
    {front back : List (Taking κ)} {taking : Taking κ}
    (parted : takings request properties = front ++ taking :: back) :
    taking? (request.without (front.map Taking.place)) taking.property = some taking := by
  induction properties generalizing request front with
  | nil => cases front <;> cases parted
  | cons property rest ih =>
    rw [takings] at parted
    cases takes : taking? request property with
    | none =>
      simp only [takes] at parted
      exact ih parted
    | some first =>
      rw [takes] at parted
      cases front with
      | nil =>
        obtain ⟨rfl, _⟩ := List.cons.inj parted
        rw [List.map_nil, Request.without_nil, (offered_of_taking? takes).1]
        exact takes
      | cons earlier front =>
        obtain ⟨rfl, partedLater⟩ := List.cons.inj parted
        have later := ih partedLater
        rwa [Request.without_without, List.singleton_append, ← List.map_cons] at later

end Tables

/-- A value is taken from a request after others have been: by a property that is looked for there, and not
found where it is looked for before. What a request holds is taken once; a body that is taken again is the
empty object that the first left. -/
structure Taking.Follows {κ : Type} (request : Request) (front : List (Taking κ)) (taking : Taking κ) :
    Prop where
  located : ∃ location tried untried, taking.property.location = some location ∧
    Request.placesOf location taking.property.wireName = tried ++ taking.place :: untried ∧
    ∀ place ∈ tried, (request.without (front.map Taking.place)).offers? place = none
  held : taking.place ∉ front.map Taking.place → request.offers? taking.place = some taking.value
  emptied : taking.place ∈ front.map Taking.place → taking.place = .body ∧ taking.value = .object []

namespace Tables

variable {κ : Type} (tables : Tables κ)

theorem follows_of_takings {request : Request} {properties : List (Property κ)}
    {front back : List (Taking κ)} {taking : Taking κ}
    (parted : takings request properties = front ++ taking :: back) :
    taking.Follows request front := by
  obtain ⟨_, location, tried, untried, isLocation, places, offers, notBefore⟩ :=
    offered_of_taking? (taking?_of_takings parted)
  rw [Request.offers?_without] at offers
  refine ⟨⟨location, tried, untried, isLocation, places, notBefore⟩, ?_, ?_⟩
  · intro notTaken
    rwa [if_neg notTaken] at offers
  · intro taken
    rw [if_pos taken] at offers
    split at offers
    · next isBody => exact ⟨isBody, (Option.some.inj offers).symm⟩
    · cases offers

/-- Whether or not a model can be built, what is bound is what the located properties have taken out of the
request, each at most once, and the rest of the request is as it was. Nothing that the request holds is
taken twice. -/
theorem bind_takes_once {ε α : Type} (build : Json → Except ε α) (table : Table κ) (request : Request) :
    ∃ takings : List (Taking κ),
      (takings.map Taking.property).Sublist
          (table.properties.filter fun property => property.location.isSome) ∧
        (∀ front taking back, takings = front ++ taking :: back → taking.Follows request front) ∧
        tables.bindAs build table request =
          (build (.object (takings.foldl tables.write ∅).entries),
            request.without (takings.map Taking.place)) := by
  refine ⟨takings request table.properties, sublist_takings request table.properties, ?_, ?_⟩
  · intro front taking back parted
    exact follows_of_takings parted
  · rw [bindAs, bindRequest, tables.bind_eq]

end Tables
end WireContract
