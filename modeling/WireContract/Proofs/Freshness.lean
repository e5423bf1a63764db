import Mathlib
import WireContract.Proofs.CommandRuns
import WireContract.Proofs.HashedText
import WireContract.Proofs.PrettyReading

/-!
What a status report vouches for. A stored contract that is called up to date has the hash of the contract as
it is; where no two texts share a hash, compiling again writes what is stored exactly when the two contracts
agree on the project and on the headings of their operations. Main statement: `compile_again_iff`.
-/

namespace WireContract

namespace Json

theorem parts_of_reread {depth : Nat} {fields others : List (String × Option Json)}
    (distinct : (fields.map Prod.fst).Nodup) (otherDistinct : (others.map Prod.fst).Nodup) {value : Json}
    (read : reread (depth + 1) (.ofMembers (present fields)) = some value)
    (also : reread (depth + 1) (.ofMembers (present others)) = some value) (key : String) :
    ∃ part : Option Json, (Dict.find? key fields).join.map (reread depth) = part.map some ∧
      (Dict.find? key others).join.map (reread depth) = part.map some := by
  obtain ⟨_, isMembers, rfl⟩ := Option.map_eq_some_iff.mp read
  obtain ⟨members, alsoMembers, same⟩ := Option.map_eq_some_iff.mp also
  obtain rfl := Json.object.inj same
  refine ⟨Dict.find? key members, ?_, ?_⟩
  · rw [← Source.find?_entries_present distinct, find?_rereadMembers isMembers]
  · rw [← Source.find?_entries_present otherDistinct, find?_rereadMembers alsoMembers]

theorem texts_of_reread {depth : Nat} {fields others : List (String × Option Json)}
    (distinct : (fields.map Prod.fst).Nodup) (otherDistinct : (others.map Prod.fst).Nodup) {value : Json}
    (read : reread depth (.ofMembers (present fields)) = some value)
    (also : reread depth (.ofMembers (present others)) = some value) (key : String)
    (text other : Option String) (isText : (Dict.find? key fields).join = text.map .string)
    (isOther : (Dict.find? key others).join = other.map .string) : text = other := by
  cases depth with
  | zero => cases read
  | succ depth =>
    obtain ⟨part, isPart, alsoPart⟩ := parts_of_reread distinct otherDistinct read also key
    have same : text.map Json.string = other.map Json.string := by
      have reads (text : Option String) :
          (text.map Json.string).map (reread depth) = (text.map Json.string).map some := by
        cases text <;> rfl
      rw [isText, reads] at isPart
      rw [isOther, reads] at alsoPart
      exact Option.map_injective (fun _ _ => Option.some.inj) (isPart.trans alsoPart.symm)
    exact Option.map_injective (fun _ _ => Json.string.inj) same

end Json

namespace Endpoint

theorem heading_of_reread {depth : Nat} {endpoint other : Endpoint} {value : Json}
    (read : Json.reread depth endpoint.encode = some value)
    (also : Json.reread depth other.encode = some value) : endpoint.heading = other.heading := by
  rw [encode_eq] at read also
  have text := Json.texts_of_reread (by simp) (by simp) read also
  have methods := text "method" (some endpoint.method) (some other.method) (by simp [Dict.find?])
    (by simp [Dict.find?])
  have urls := text "url" (some endpoint.url) (some other.url) (by simp [Dict.find?]) (by simp [Dict.find?])
  have ids := text "operationId" (some endpoint.operationId) (some other.operationId) (by simp [Dict.find?])
    (by simp [Dict.find?])
  have controllers := text "controller" endpoint.controller other.controller (by simp [Dict.find?])
    (by simp [Dict.find?])
  have summaries := text "summary" endpoint.summary other.summary (by simp [Dict.find?])
    (by simp [Dict.find?])
  rw [heading, heading, Option.some.inj methods, Option.some.inj urls, Option.some.inj ids, controllers,
    summaries]

theorem headings_of_reread {depth : Nat} {operations others : List Endpoint} {values : List Json}
    (read : Json.rereadItems depth (operations.map encode) = some values)
    (also : Json.rereadItems depth (others.map encode) = some values) :
    operations.map heading = others.map heading := by
  induction operations generalizing others values with
  | nil =>
    obtain rfl := Option.some.inj read
    cases others with
    | nil => rfl
    | cons other others =>
      rw [List.map_cons, Json.rereadItems] at also
      split at also
      · cases also
      · obtain ⟨_, -, same⟩ := Option.map_eq_some_iff.mp also
        cases same
  | cons endpoint operations ih =>
    rw [List.map_cons, Json.rereadItems] at read
    split at read
    · cases read
    · next value isValue =>
      obtain ⟨later, isLater, rfl⟩ := Option.map_eq_some_iff.mp read
      cases others with
      | nil => cases also
      | cons other others =>
        rw [List.map_cons, Json.rereadItems] at also
        split at also
        · cases also
        · next otherValue isOther =>
          obtain ⟨otherLater, isOtherLater, same⟩ := Option.map_eq_some_iff.mp also
          obtain ⟨rfl, rfl⟩ := List.cons.inj same
          rw [List.map_cons, List.map_cons, heading_of_reread isValue isOther, ih isLater isOtherLater]

end Endpoint

namespace Contract

theorem sameHeadings_of_reread {depth : Nat} {contract other : Contract} {value : Json}
    (read : Json.reread depth contract.encode = some value)
    (also : Json.reread depth other.encode = some value) : contract.SameHeadings other := by
  rw [encode_eq] at read also
  have text := Json.texts_of_reread (by simp) (by simp) read also
  have names := text "name" (some contract.name) (some other.name) (by simp [Dict.find?])
    (by simp [Dict.find?])
  have versions := text "version" (some contract.version) (some other.version) (by simp [Dict.find?])
    (by simp [Dict.find?])
  refine ⟨Option.some.inj names, Option.some.inj versions, ?_⟩
  cases depth with
  | zero => cases read
  | succ depth =>
    obtain ⟨part, isPart, alsoPart⟩ := Json.parts_of_reread (by simp) (by simp) read also "operations"
    have listed {operations : List Endpoint}
        (isPart : (some (Json.array (operations.map Endpoint.encode))).map (Json.reread depth) =
          part.map some) :
        ∃ list, part = some list ∧
          Json.reread depth (.array (operations.map Endpoint.encode)) = some list := by
      cases part with
      | none => cases isPart
      | some list => exact ⟨list, rfl, Option.some.inj isPart⟩
    obtain ⟨list, rfl, isList⟩ := listed (by simpa [Dict.find?] using isPart)
    obtain ⟨_, ⟨⟩, alsoList⟩ := listed (by simpa [Dict.find?] using alsoPart)
    cases depth with
    | zero => cases isList
    | succ depth =>
      obtain ⟨values, isValues, rfl⟩ := Option.map_eq_some_iff.mp isList
      obtain ⟨_, alsoValues, same⟩ := Option.map_eq_some_iff.mp alsoList
      obtain rfl := Json.array.inj same
      exact Endpoint.headings_of_reread isValues alsoValues

theorem sameHeadings_of_pretty {contract other : Contract}
    (readable : (Command.storedHash? (Command.stored contract).pretty).isSome = true)
    (same : (Command.stored contract).pretty = (Command.stored other).pretty) :
    contract.SameHeadings other := by
  have parsed := congrArg Json.parse? same
  rw [Command.parse?_stored, Command.parse?_stored] at parsed
  rw [Command.storedHash?_stored, Option.isSome_map] at readable
  obtain ⟨api, read⟩ := Option.isSome_iff_exists.mp readable
  rw [read] at parsed
  obtain ⟨otherApi, alsoRead, sameApi⟩ := Option.map_eq_some_iff.mp parsed.symm
  obtain rfl : otherApi = api := congrArg Prod.snd (List.cons.inj (Json.object.inj sameApi)).1
  exact sameHeadings_of_reread read alsoRead

end Contract

namespace Command

open FileTree Running

theorem freshness_eq_iff {stored : Option String} {contract : Contract} :
    freshness stored contract = "up to date" ↔ stored.bind storedHash? = some contract.contentHash := by
  rw [freshness]
  cases stored.bind storedHash? with
  | none => simp
  | some hash =>
    by_cases same : hash = contract.contentHash <;> simp [same]

theorem freshness_cases (stored : Option String) (contract : Contract) :
    freshness stored contract = "up to date" ∨ freshness stored contract = "not compiled" ∨
      freshness stored contract = "stale" := by
  rw [freshness]
  cases stored.bind storedHash? with
  | none => exact .inr (.inl rfl)
  | some hash =>
    dsimp only
    split
    · exact .inl rfl
    · exact .inr (.inr rfl)

theorem freshness_of_report {stored : Option String} {contract : Contract} {start other : String}
    (same : start ++ "(up to date)\n" = other ++ ("(" ++ freshness stored contract ++ ")\n")) :
    freshness stored contract = "up to date" := by
  -- the last four characters tell the words apart
  have ends := congrArg (fun text : String => text.toList.reverse.take 4) same
  rcases freshness_cases stored contract with isWord | isWord | isWord
  · exact isWord
  all_goals
    rw [isWord] at ends
    simp [String.toList_append] at ends

/-- A contract that is called up to date is stored with the hash of the contract as it is. -/
theorem storedHash?_of_report {now : Instant} {config text start : String} {tree after : FileTree}
    {found : LoadedProject × Contract} (founds : Succeeds (Command.contract config) tree found tree)
    (inPlace : tree.read found.1.outputPath = .ok text)
    (reported : Succeeds (perform now config .status) tree (0, start ++ "(up to date)\n") after) :
    storedHash? text = some found.2.contentHash := by
  obtain ⟨-, shown, alsoFounds, same⟩ := status_succeeds_iff.mp reported
  obtain rfl := alsoFounds.unique founds
  have fresh := freshness_of_report (Prod.mk.inj same).2
  have isText : Except.toOption (.ok text : Except FileError String) = some text := rfl
  rwa [inPlace, freshness_eq_iff, isText, Option.bind_some] at fresh

theorem listsStatuses_of_succeeds {config : String} {tree after : FileTree} {found : LoadedProject × Contract}
    (founds : Succeeds (Command.contract config) tree found after) :
    ∀ endpoint ∈ found.2.operations, endpoint.ListsStatuses := by
  obtain ⟨-, -, document, -, isContract⟩ := contract_succeeds_iff.mp founds
  intro endpoint member
  rw [isContract] at member
  obtain ⟨entry, -, rfl⟩ := List.mem_map.mp member
  exact Endpoint.listsStatuses_ofEntry _ entry

/-- What a report that says `up to date` vouches for, where the two hashed texts do not share a hash by
chance: compiling again writes what is stored exactly if the contracts have the same headings. -/
theorem compile_again_iff {first second third : Instant} {config start : String}
    {before after later last again : FileTree} {old found : LoadedProject × Contract}
    (oldFounds : Succeeds (Command.contract config) before old before)
    (compiled : Succeeds (perform first config (.compile none)) before (0, "") after)
    (founds : Succeeds (Command.contract config) later found later)
    (inPlace : later.read found.1.outputPath = after.read old.1.outputPath)
    (reported : Succeeds (perform second config .status) later (0, start ++ "(up to date)\n") last)
    (noCollision : old.2.contentHash = found.2.contentHash → old.2.hashedText = found.2.hashedText)
    (recompiled : Succeeds (perform third config (.compile none)) later (0, "") again) :
    again.read found.1.outputPath = later.read found.1.outputPath ↔ old.2.SameHeadings found.2 := by
  obtain ⟨-, oldAlso, oldAlsoFounds, isStored⟩ := read_of_compile compiled
  obtain rfl := oldAlsoFounds.unique oldFounds
  obtain ⟨-, also, alsoFounds, isAgain⟩ := read_of_compile recompiled
  obtain rfl := alsoFounds.unique founds
  -- what is in place and what is written again are the texts of the two contracts
  have isThere := inPlace.trans isStored
  have hash := storedHash?_of_report founds isThere reported
  rw [isAgain, isThere, Except.ok.injEq]
  constructor
  · intro same
    refine Contract.sameHeadings_of_pretty ?_ same.symm
    rw [hash]
    rfl
  · intro headings
    have sameHash : oldAlso.2.contentHash = also.2.contentHash := by
      rw [storedHash?_stored] at hash
      obtain ⟨_, -, isHash⟩ := Option.map_eq_some_iff.mp hash
      exact isHash
    exact (Contract.pretty_stored_of_hashedText (listsStatuses_of_succeeds oldFounds)
      (listsStatuses_of_succeeds founds) headings (noCollision sameHash)).symm

end Command

/-!
A project of which the name ends where another version starts: only the bounds between the two tell it from
the other, and the hashed text does not show them.
-/

namespace Renaming

open FileTree Running Command

def tree (project : String) : FileTree :=
  (FileTree.empty.put ["swagger.yaml"] (.file "")).put ["apiguard.yaml"] (.file project)

def compiled (project text : String) : FileTree :=
  ((tree project).put [".apiguard"] .directory).put [".apiguard", "compiled.json"] (.file text)

def project (name version : String) : Project := { Project.named name with version := version }

def found (name version : String) : LoadedProject × Contract :=
  (⟨project name version, ""⟩, ⟨name, version, [], []⟩)

def output (name version : String) : String := (stored (found name version).2).pretty

theorem ofYaml?_eq {name version text : String}
    (spells : (Yaml.tokens? text).bind Yaml.Tree.document? =
      some (some (.mapping ⟨none, none⟩
        [(.scalar ⟨none, none⟩ "name" .plain, .scalar ⟨none, none⟩ name .plain),
         (.scalar ⟨none, none⟩ "version" .plain, .scalar ⟨none, none⟩ version .plain)]))) :
    Project.ofYaml? text = some (project name version) := by
  have source : Yaml.read? text = some (.record false
      [(Yaml.scalarOf none "name" .plain, .scalar (Yaml.scalarOf none name .plain)),
       (Yaml.scalarOf none "version" .plain, .scalar (Yaml.scalarOf none version .plain))]) := by
    rw [Yaml.read?, spells]
    simp [Yaml.number, Yaml.numberPairs, Yaml.expand, Yaml.expandPairs, Yaml.maxDepth, Yaml.isLocal]
  have isText (tag : Option String) (text : String) (style : Yaml.ScalarStyle) :
      (Yaml.scalarOf tag text style).text = some text := rfl
  rw [Project.ofYaml?, source]
  simp [Project.decode, Source.fields?, Source.fieldsByName, Source.valuesOf, isText, Source.required?,
    Source.defaulted?, Source.text?, Project.named, project]

theorem ofYaml?_api : Project.ofYaml? "name: api\nversion: 21.0.0" = some (project "api" "21.0.0") :=
  ofYaml?_eq (by cbv)

theorem ofYaml?_api2 : Project.ofYaml? "name: api2\nversion: 1.0.0" = some (project "api2" "1.0.0") :=
  ofYaml?_eq (by cbv)

theorem ofYaml?_empty : Document.ofYaml? "" = some .empty := by cbv

theorem documentPath_found (name version : String) :
    (found name version).1.documentPath = "swagger.yaml" := by
  have relative : Path.isAbsolute "swagger.yaml" = false := by decide
  show Path.join "" "swagger.yaml" = _
  rw [Path.join, relative]
  exact String.empty_append

theorem outputPath_found (name version : String) :
    (found name version).1.outputPath = ".apiguard/compiled.json" := by
  have relative : Path.isAbsolute ".apiguard/compiled.json" = false := by decide
  show Path.join "" ".apiguard/compiled.json" = _
  rw [Path.join, relative]
  exact String.empty_append

theorem references_root_ne (name version : String) : (project name version).references.root ≠ "" := by
  show Definitions.defaultRoot ≠ ""
  decide

section

variable {name version text : String} (means : Project.ofYaml? text = some (project name version))
include means

theorem contract_tree :
    Succeeds (Command.contract "apiguard.yaml") (tree text) (found name version) (tree text) := by
  refine contract_succeeds_iff.mpr
    ⟨rfl, outcome_loadProject rfl rfl rfl means (references_root_ne name version), .empty, ?_, rfl⟩
  rw [documentPath_found]
  exact outcome_loadDocument rfl rfl ofYaml?_empty

theorem contract_compiled (old : String) :
    Succeeds (Command.contract "apiguard.yaml") (compiled text old) (found name version)
      (compiled text old) := by
  refine contract_succeeds_iff.mpr
    ⟨rfl, outcome_loadProject rfl rfl rfl means (references_root_ne name version), .empty, ?_, rfl⟩
  rw [documentPath_found]
  exact outcome_loadDocument rfl rfl ofYaml?_empty

theorem compile_tree (now : Instant) :
    Succeeds (perform now "apiguard.yaml" (.compile none)) (tree text) (0, "")
      (compiled text (output name version)) := by
  have isParent : Path.parent? (found name version).1.outputPath = some ".apiguard" := by
    rw [outputPath_found]
    rfl
  have makes : StateT.run (m := Id) (Files.makeDirectories ".apiguard") (tree text) =
      (.ok (), (tree text).put [".apiguard"] .directory) := rfl
  refine compile_succeeds (contract_tree means) isParent makes ?_
  rw [outputPath_found, ← output]
  generalize output name version = new
  rfl

theorem compile_compiled (now : Instant) (old : String) :
    Succeeds (perform now "apiguard.yaml" (.compile none)) (compiled text old) (0, "")
      (compiled text (output name version)) := by
  have isParent : Path.parent? (found name version).1.outputPath = some ".apiguard" := by
    rw [outputPath_found]
    rfl
  have makes : StateT.run (m := Id) (Files.makeDirectories ".apiguard") (compiled text old) =
      (.ok (), compiled text old) := rfl
  refine compile_succeeds (contract_compiled means old) isParent makes ?_
  rw [outputPath_found, ← output]
  generalize output name version = new
  have written : compiled text new = (compiled text old).put [".apiguard", "compiled.json"] (.file new) :=
    (put_put _ _ _ _).symm
  rw [written]
  rfl

end

theorem read_compiled (name version text stored : String) :
    (compiled text stored).read (found name version).1.outputPath = .ok stored := by
  rw [outputPath_found]
  rfl

theorem storedHash?_output (name version : String) :
    storedHash? (output name version) = some (found name version).2.contentHash := by
  have readable : Json.reread (Json.maxDepth - 1) (found name version).2.encode =
      some (found name version).2.encode := by cbv
  rw [output, storedHash?_stored, readable, Option.map_some]

theorem status_compiled {name version old other text : String}
    (means : Project.ofYaml? text = some (project name version))
    (sameHash : (found old other).2.contentHash = (found name version).2.contentHash) (now : Instant) :
    Succeeds (perform now "apiguard.yaml" .status) (compiled text (output old other))
      (0, statusStart (found name version).1 (found name version).2 ++ "(up to date)\n")
      (compiled text (output old other)) := by
  have fresh : freshness ((compiled text (output old other)).read (found name version).1.outputPath).toOption
      (found name version).2 = "up to date" := by
    have isText (text : String) : Except.toOption (.ok text : Except FileError String) = some text := rfl
    rw [read_compiled, isText, freshness_eq_iff, Option.bind_some, storedHash?_output, sameHash]
  refine status_succeeds_iff.mpr ⟨rfl, found name version, contract_compiled means _, ?_⟩
  rw [fresh]
  rfl

/-- Where the name ends and the version starts is not hashed. -/
theorem hashedText_renamed : (found "api" "21.0.0").2.hashedText = (found "api2" "1.0.0").2.hashedText := by
  have joined : "api" ++ "21.0.0" = "api2" ++ "1.0.0" := by decide
  exact congrArg (· ++ String.join [] ++ Debug.models []) joined

theorem contentHash_renamed : (found "api" "21.0.0").2.contentHash = (found "api2" "1.0.0").2.contentHash :=
  congrArg Sha256.hex hashedText_renamed

theorem compile_again_renamed :
    (compiled "name: api2\nversion: 1.0.0" (output "api2" "1.0.0")).read (found "api2" "1.0.0").1.outputPath =
        (compiled "name: api2\nversion: 1.0.0" (output "api" "21.0.0")).read
          (found "api2" "1.0.0").1.outputPath ↔
      (found "api" "21.0.0").2.SameHeadings (found "api2" "1.0.0").2 := by
  have inPlace : (compiled "name: api2\nversion: 1.0.0" (output "api" "21.0.0")).read
      (found "api2" "1.0.0").1.outputPath =
        (compiled "name: api\nversion: 21.0.0" (output "api" "21.0.0")).read
          (found "api" "21.0.0").1.outputPath := by
    rw [read_compiled, read_compiled]
  exact compile_again_iff (contract_tree ofYaml?_api) (compile_tree ofYaml?_api ⟨0, 0⟩)
    (contract_compiled ofYaml?_api2 _) inPlace (status_compiled ofYaml?_api2 contentHash_renamed ⟨1, 0⟩)
    (fun _ => hashedText_renamed) (compile_compiled ofYaml?_api2 ⟨2, 0⟩ _)

/-- A project that was renamed is up to date by its report, though compiling again writes something else. -/
theorem renamed_project_up_to_date :
    Succeeds (perform ⟨0, 0⟩ "apiguard.yaml" (.compile none)) (tree "name: api\nversion: 21.0.0") (0, "")
        (compiled "name: api\nversion: 21.0.0" (output "api" "21.0.0")) ∧
      Succeeds (perform ⟨1, 0⟩ "apiguard.yaml" .status)
        (compiled "name: api2\nversion: 1.0.0" (output "api" "21.0.0"))
        (0, statusStart (found "api2" "1.0.0").1 (found "api2" "1.0.0").2 ++ "(up to date)\n")
        (compiled "name: api2\nversion: 1.0.0" (output "api" "21.0.0")) ∧
      Succeeds (perform ⟨2, 0⟩ "apiguard.yaml" (.compile none))
        (compiled "name: api2\nversion: 1.0.0" (output "api" "21.0.0")) (0, "")
        (compiled "name: api2\nversion: 1.0.0" (output "api2" "1.0.0")) ∧
      (found "api" "21.0.0").2.hashedText = (found "api2" "1.0.0").2.hashedText ∧
      output "api" "21.0.0" ≠ output "api2" "1.0.0" := by
  refine ⟨compile_tree ofYaml?_api _, status_compiled ofYaml?_api2 contentHash_renamed _,
    compile_compiled ofYaml?_api2 _ _, hashedText_renamed, fun same => ?_⟩
  have readable : (storedHash? (output "api" "21.0.0")).isSome = true := by
    rw [storedHash?_output]
    rfl
  have names := (Contract.sameHeadings_of_pretty readable same).name
  exact absurd names (by decide)

end Renaming
end WireContract
