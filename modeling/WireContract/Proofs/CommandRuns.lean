import WireContract.CommandLine.Run
import WireContract.Files.Tree

namespace WireContract

namespace FileTree

theorem entryAt?_of_ne_nil {tree : FileTree} {place : List String} (below : place ≠ []) :
    tree.entryAt? place = tree.entries.get? (key place) := by
  rw [entryAt?, List.isEmpty_eq_false_iff.mpr below]
  exact if_neg Bool.false_ne_true

theorem ne_nil_of_not_directory {tree : FileTree} {place : List String}
    (notDirectory : tree.entryAt? place ≠ some .directory) : place ≠ [] := by
  rintro rfl
  exact notDirectory rfl

theorem entryAt?_put_of_directory {tree : FileTree} {place other : List String}
    (notDirectory : tree.entryAt? place ≠ some .directory)
    (isDirectory : tree.entryAt? other = some .directory) (entry : FileEntry) :
    (tree.put place entry).entryAt? other = some .directory := by
  by_cases isRoot : other = []
  · rw [isRoot]
    rfl
  · rw [entryAt?_put tree place other entry isRoot]
    split
    · next sameKey =>
      rw [entryAt?_of_ne_nil isRoot, sameKey, ← entryAt?_of_ne_nil (ne_nil_of_not_directory notDirectory)]
        at isDirectory
      exact absurd isDirectory notDirectory
    · exact isDirectory

theorem put_put (tree : FileTree) (place : List String) (first second : FileEntry) :
    (tree.put place first).put place second = tree.put place second := by
  have same : (tree.entries.insert (key place) first).insert (key place) second =
      tree.entries.insert (key place) second := by
    apply Dict.ext_get?
    intro other
    simp only [Dict.get?_insert]
    split <;> rfl
  rw [put, put, same, put]

/-- A path leads to where it led, as long as every directory stays one. -/
theorem walk_of_directories {tree after : FileTree}
    (stays : ∀ place, tree.entryAt? place = some .directory → after.entryAt? place = some .directory)
    {parts start reached : List String} (walks : tree.walk start parts = .ok reached) :
    after.walk start parts = .ok reached := by
  induction parts generalizing start with
  | nil => exact walks
  | cons part rest ih =>
    rw [walk] at walks ⊢
    cases isEntry : tree.entryAt? start with
    | none =>
      rw [isEntry] at walks
      cases walks
    | some found =>
      cases found with
      | file text =>
        rw [isEntry] at walks
        cases walks
      | directory =>
        rw [isEntry] at walks
        rw [stays start isEntry]
        dsimp only at walks ⊢
        split at walks
        · next isUp => rw [if_pos isUp]; exact ih walks
        · next notUp =>
          rw [if_neg notUp]
          split at walks
          · next isName => rw [if_pos isName]; exact ih walks
          · next noName => rw [if_neg noName]; exact ih walks

theorem walk_put {tree : FileTree} {written : List String}
    (notDirectory : tree.entryAt? written ≠ some .directory) (entry : FileEntry)
    {parts start reached : List String} (walks : tree.walk start parts = .ok reached) :
    (tree.put written entry).walk start parts = .ok reached :=
  walk_of_directories (fun _ isDirectory => entryAt?_put_of_directory notDirectory isDirectory entry) walks

theorem newPlace_eq_place {tree : FileTree} {path : String} (noSlash : endsInSlash path = false) :
    tree.newPlace path = tree.place path := by
  have kept : ((Path.parts path).reverse.dropWhile (· == "")).reverse = Path.parts path := by
    rw [endsInSlash, ← List.head?_reverse] at noSlash
    cases isParts : (Path.parts path).reverse with
    | nil => exact (List.reverse_eq_nil_iff.mp isParts).symm
    | cons last others =>
      rw [isParts, List.head?_cons] at noSlash
      rw [List.dropWhile_cons_of_neg (by simpa using noSlash), ← isParts, List.reverse_reverse]
  rw [newPlace, kept, place]

/-- A file is written where there is no directory. -/
theorem write_cases {tree after : FileTree} {path text : String} (written : tree.write path text = .ok after) :
    ∃ place, tree.newPlace path = .ok place ∧ tree.entryAt? place ≠ some .directory ∧
      endsInSlash path = false ∧ after = tree.put place (.file text) := by
  cases isPlace : tree.newPlace path with
  | error error =>
    rw [write, isPlace] at written
    cases written
  | ok place =>
    rw [write, isPlace] at written
    replace written : (if (tree.entryAt? place == some .directory || endsInSlash path) = true
        then Except.error FileError.isDirectory else .ok (tree.put place (.file text))) = .ok after := written
    split at written
    · cases written
    · next allowed =>
      obtain ⟨notDirectory, noSlash⟩ := not_or.mp (mt Bool.or_eq_true_iff.mpr allowed)
      refine ⟨place, rfl, ?_, Bool.eq_false_iff.mpr noSlash, (Except.ok.inj written).symm⟩
      simpa using notDirectory

theorem read_write {tree after : FileTree} {path text : String} (written : tree.write path text = .ok after) :
    after.read path = .ok text := by
  obtain ⟨place, isPlace, notDirectory, noSlash, rfl⟩ := write_cases written
  have leads : (tree.put place (.file text)).place path = .ok place := by
    rw [newPlace_eq_place noSlash, FileTree.place, follow] at isPlace
    rw [FileTree.place, follow]
    split at isPlace
    · cases isPlace
    · next isGiven =>
      rw [if_neg isGiven]
      exact walk_put notDirectory _ isPlace
  have isThere : (tree.put place (.file text)).entryAt? place = some (.file text) := by
    rw [entryAt?_put tree place place _ (ne_nil_of_not_directory notDirectory), if_pos rfl]
  have found : (tree.put place (.file text)).lookup path = .ok (place, .file text) := by
    simp only [lookup, leads, bind, Except.bind, isThere]
    rfl
  rw [read, found]
  rfl

theorem run_change (act : FileTree → Except FileError FileTree) (tree : FileTree) :
    (change act).run tree =
      match act tree with
      | .ok after => (.ok (), after)
      | .error error => (.error error, tree) := by
  simp only [change, StateT.run_bind, StateT.run_get, pure_bind]
  cases act tree <;> rfl

/-- A computation that leaves every tree as it is. -/
def Looks {α : Type} (action : StateM FileTree α) : Prop := ∀ tree, (action.run tree).2 = tree

def outcome {α : Type} (action : StateM FileTree α) (tree : FileTree) : α := (action.run tree).1

theorem Looks.run_eq_iff {α : Type} {action : StateM FileTree α} (looks : Looks action)
    {tree after : FileTree} {a : α} :
    action.run tree = (a, after) ↔ outcome action tree = a ∧ tree = after := by
  constructor
  · intro ran
    exact ⟨congrArg Prod.fst ran, (looks tree).symm.trans (congrArg Prod.snd ran)⟩
  · rintro ⟨rfl, rfl⟩
    exact Prod.ext rfl (looks tree)

theorem looks_pure {α : Type} (a : α) : Looks (pure a) := fun _ => rfl

theorem looks_bind {α β : Type} {first : StateM FileTree α} {next : α → StateM FileTree β}
    (firstLooks : Looks first) (nextLooks : ∀ a, Looks (next a)) : Looks (first >>= next) := by
  intro tree
  show ((next (first.run tree).1).run (first.run tree).2).2 = tree
  rw [nextLooks, firstLooks]

theorem looks_get : Looks get := fun _ => rfl

theorem looks_isDirectory (path : String) : Looks (Files.isDirectory path) := by
  refine looks_bind looks_get fun tree => ?_
  split <;> exact looks_pure _

theorem looks_isThere (path : String) : Looks (Files.isThere path) := by
  refine looks_bind looks_get fun tree => ?_
  split <;> exact looks_pure _

theorem looks_read (path : String) : Looks (Files.read path) := fun _ => rfl

theorem looks_loadProject (path : String) : Looks (LoadedProject.load path) := by
  refine looks_bind (looks_isDirectory path) fun isDirectory => ?_
  refine looks_bind (looks_isThere _) fun isThere => ?_
  split
  · refine looks_bind (looks_read _) fun found => ?_
    split
    · exact looks_pure _
    · split
      · exact looks_pure _
      · split <;> exact looks_pure _
  · exact looks_pure _

theorem looks_loadDocument (path : String) : Looks (Document.load path) := by
  refine looks_bind (looks_isThere path) fun isThere => ?_
  split
  · refine looks_bind (looks_read path) fun found => ?_
    split
    · exact looks_pure _
    · split <;> exact looks_pure _
  · exact looks_pure _

theorem Looks.outcome_bind {α β : Type} {first : StateM FileTree α} {next : α → StateM FileTree β}
    (looks : Looks first) (tree : FileTree) :
    outcome (first >>= next) tree = outcome (next (outcome first tree)) tree := by
  show ((next (first.run tree).1).run (first.run tree).2).1 = _
  rw [looks]
  rfl

theorem outcome_loadProject {config text : String} {tree : FileTree} {project : Project}
    (isFile : outcome (Files.isDirectory config) tree = false)
    (isThere : outcome (Files.isThere config) tree = true) (read : tree.read config = .ok text)
    (means : Project.ofYaml? text = some project) (rooted : project.references.root ≠ "") :
    outcome (LoadedProject.load config) tree = .ok ⟨project, (Path.parent? config).getD "."⟩ := by
  have reads : outcome (Files.read config) tree = .ok text := read
  have isPlaces : Project.places config false = (config, (Path.parent? config).getD ".") := rfl
  rw [LoadedProject.load, (looks_isDirectory config).outcome_bind, isFile, isPlaces]
  dsimp only
  rw [(looks_isThere config).outcome_bind, isThere, if_pos rfl, (looks_read config).outcome_bind, reads]
  dsimp only
  rw [means]
  dsimp only
  rw [if_neg (by simpa using rooted)]
  rfl

theorem outcome_loadDocument {path text : String} {tree : FileTree} {document : Document}
    (isThere : outcome (Files.isThere path) tree = true) (read : tree.read path = .ok text)
    (means : Document.ofYaml? text = some document) :
    outcome (Document.load path) tree = .ok document := by
  have reads : outcome (Files.read path) tree = .ok text := read
  rw [Document.load, (looks_isThere path).outcome_bind, isThere, if_pos rfl,
    (looks_read path).outcome_bind, reads]
  dsimp only
  rw [means]
  rfl

end FileTree

namespace Running

def Succeeds {α : Type} (action : Running (StateM FileTree) α) (tree : FileTree) (result : α)
    (after : FileTree) : Prop :=
  action.run.run tree = (.ok result, after)

variable {α β : Type} {tree after : FileTree}

theorem succeeds_pure {a : α} : Succeeds (pure a) tree a tree := rfl

theorem succeeds_pure_iff {a b : α} : Succeeds (pure a) tree b after ↔ a = b ∧ tree = after := by
  constructor
  · intro succeeds
    obtain ⟨isResult, isTree⟩ := Prod.mk.inj succeeds
    exact ⟨Except.ok.inj isResult, isTree⟩
  · rintro ⟨rfl, rfl⟩
    rfl

theorem Succeeds.unique {action : Running (StateM FileTree) α} {a b : α} {other : FileTree}
    (succeeds : Succeeds action tree a after) (also : Succeeds action tree b other) : a = b := by
  rw [Succeeds] at succeeds also
  rw [succeeds] at also
  exact Except.ok.inj (Prod.mk.inj also).1

theorem run_bind (first : Running (StateM FileTree) α) (next : α → Running (StateM FileTree) β)
    (tree : FileTree) :
    (first >>= next).run.run tree =
      match first.run.run tree with
      | (.ok a, between) => (next a).run.run between
      | (.error message, between) => (.error message, between) := by
  show (StateT.run (m := Id) (first.run >>= ExceptT.bindCont next) tree) = _
  rw [StateT.run_bind]
  show (ExceptT.bindCont next (first.run.run tree).1).run (first.run.run tree).2 = _
  rcases first.run.run tree with ⟨a | a, between⟩ <;> rfl

theorem succeeds_bind_iff {first : Running (StateM FileTree) α} {next : α → Running (StateM FileTree) β}
    {b : β} :
    Succeeds (first >>= next) tree b after ↔
      ∃ a between, Succeeds first tree a between ∧ Succeeds (next a) between b after := by
  rw [Succeeds, run_bind]
  constructor
  · intro succeeds
    rcases isFirst : first.run.run tree with ⟨message | a, between⟩
    · rw [isFirst] at succeeds
      cases (Prod.mk.inj succeeds).1
    · rw [isFirst] at succeeds
      exact ⟨a, between, isFirst, succeeds⟩
  · rintro ⟨a, between, isFirst, succeeds⟩
    rw [Succeeds] at isFirst
    rw [isFirst]
    exact succeeds

theorem run_lift (action : StateM FileTree α) (tree : FileTree) :
    (monadLift action : Running (StateM FileTree) α).run.run tree =
      (.ok (action.run tree).1, (action.run tree).2) := rfl

theorem succeeds_lift_iff {action : StateM FileTree α} {a : α} :
    Succeeds (monadLift action : Running (StateM FileTree) α) tree a after ↔
      action.run tree = (a, after) := by
  rw [Succeeds, run_lift, Prod.mk.injEq, Except.ok.injEq, ← Prod.mk.injEq]
  exact Iff.rfl

theorem run_orFail {ε : Type} (message : ε → String) (action : StateM FileTree (Except ε α))
    (tree : FileTree) :
    (orFail message action).run.run tree =
      match action.run tree with
      | (.ok value, after) => (.ok value, after)
      | (.error error, after) => (.error (message error), after) := by
  have lifted : (liftM action : Running (StateM FileTree) (Except ε α)).run.run tree =
      (.ok (action.run tree).1, (action.run tree).2) := rfl
  rw [orFail, run_bind, lifted]
  rcases action.run tree with ⟨value | error, after⟩ <;> rfl

theorem succeeds_orFail_iff {ε : Type} {message : ε → String} {action : StateM FileTree (Except ε α)}
    {a : α} : Succeeds (orFail message action) tree a after ↔ action.run tree = (.ok a, after) := by
  rw [Succeeds, run_orFail]
  rcases action.run tree with ⟨error | value, between⟩
  · constructor <;> intro same <;> cases (Prod.mk.inj same).1
  · constructor <;>
    · intro same
      obtain ⟨sameValue, rfl⟩ := Prod.mk.inj same
      rw [Except.ok.inj sameValue]

end Running

namespace Command

open FileTree Running

theorem contract_succeeds_iff {config : String} {tree after : FileTree} {found : LoadedProject × Contract} :
    Succeeds (Command.contract config) tree found after ↔
      tree = after ∧ outcome (LoadedProject.load config) tree = .ok found.1 ∧
        ∃ document, outcome (Document.load found.1.documentPath) tree = .ok document ∧
          found.2 = found.1.contractOf document := by
  simp only [Command.contract, succeeds_bind_iff, succeeds_orFail_iff, succeeds_pure_iff,
    (looks_loadProject _).run_eq_iff, (looks_loadDocument _).run_eq_iff]
  constructor
  · rintro ⟨loaded, _, ⟨loads, rfl⟩, document, _, ⟨reads, rfl⟩, rfl, rfl⟩
    exact ⟨rfl, loads, document, reads, rfl⟩
  · rintro ⟨rfl, loads, document, reads, same⟩
    exact ⟨found.1, tree, ⟨loads, rfl⟩, document, tree, ⟨reads, rfl⟩, same ▸ rfl, rfl⟩

theorem write_succeeds_iff {path text : String} {tree after : FileTree} :
    StateT.run (m := Id) (Files.write path text) tree = (.ok (), after) ↔
      tree.write path text = .ok after := by
  show StateT.run (m := Id) (change fun tree => tree.write path text) tree = _ ↔ _
  rw [run_change]
  cases tree.write path text with
  | ok written =>
    constructor
    · intro same
      exact congrArg Except.ok (Prod.mk.inj same).2
    · intro same
      rw [Except.ok.inj same]
  | error error =>
    constructor
    · intro same
      cases (Prod.mk.inj same).1
    · intro same
      cases same

theorem read_of_writeFile {message : FileError → String} {path text printed : String} {tree after : FileTree}
    (writes : Succeeds (do
      Running.orFail message (Files.write path text)
      return "") tree printed after) : printed = "" ∧ after.read path = .ok text := by
  obtain ⟨_, between, written, ends⟩ := succeeds_bind_iff.mp writes
  obtain ⟨rfl, rfl⟩ := succeeds_pure_iff.mp ends
  exact ⟨rfl, read_write (write_succeeds_iff.mp (succeeds_orFail_iff.mp written))⟩

theorem read_of_compile {now : Instant} {config : String} {before after : FileTree} {result : Nat × String}
    (compiled : Succeeds (perform now config (.compile none)) before result after) :
    result = (0, "") ∧ ∃ found, Succeeds (Command.contract config) before found before ∧
      after.read found.1.outputPath = .ok (stored found.2).pretty := by
  rw [perform, succeeds_bind_iff] at compiled
  obtain ⟨printed, last, stores, ends⟩ := compiled
  obtain ⟨rfl, rfl⟩ := succeeds_pure_iff.mp ends
  rw [compileProject, succeeds_bind_iff] at stores
  obtain ⟨found, between, founds, stores⟩ := stores
  obtain ⟨rfl, -⟩ := contract_succeeds_iff.mp founds
  obtain ⟨loaded, contract⟩ := found
  dsimp only at stores
  split at stores
  · obtain ⟨_, ready, _, writes⟩ := succeeds_bind_iff.mp stores
    obtain ⟨rfl, isStored⟩ := read_of_writeFile writes
    exact ⟨rfl, (loaded, contract), founds, isStored⟩
  · obtain ⟨rfl, isStored⟩ := read_of_writeFile stores
    exact ⟨rfl, (loaded, contract), founds, isStored⟩

theorem compile_succeeds {now : Instant} {config parent : String} {tree ready after : FileTree}
    {found : LoadedProject × Contract} (founds : Succeeds (Command.contract config) tree found tree)
    (isParent : Path.parent? found.1.outputPath = some parent)
    (makes : StateT.run (m := Id) (Files.makeDirectories parent) tree = (.ok (), ready))
    (writes : ready.write found.1.outputPath (stored found.2).pretty = .ok after) :
    Succeeds (perform now config (.compile none)) tree (0, "") after := by
  have stores : Succeeds (compileProject config none) tree "" after := by
    refine succeeds_bind_iff.mpr ⟨found, tree, founds, ?_⟩
    dsimp only
    rw [isParent]
    refine succeeds_bind_iff.mpr ⟨(), ready, succeeds_orFail_iff.mpr makes, ?_⟩
    refine succeeds_bind_iff.mpr ⟨(), after, ?_, succeeds_pure⟩
    exact succeeds_orFail_iff.mpr (write_succeeds_iff.mpr writes)
  exact succeeds_bind_iff.mpr ⟨"", after, stores, succeeds_pure⟩

def statusLines (loaded : LoadedProject) (contract : Contract) : List String :=
  [ "Project:    " ++ loaded.project.name ++ " " ++ loaded.project.version,
    "Document:   " ++ loaded.documentPath,
    "Operations: " ++ toString contract.operations.length ] ++
  (contract.operations.map fun endpoint =>
    "  " ++ padded (Text.asciiUpper endpoint.method) ++ " " ++ endpoint.url ++ " (" ++
      endpoint.operationId ++ ")") ++
  ["Models:     " ++ toString contract.models.length] ++
  contract.models.map fun model => "  " ++ model.name

def statusStart (loaded : LoadedProject) (contract : Contract) : String :=
  Sample.lines (statusLines loaded contract) ++ ("Compiled:   " ++ loaded.outputPath ++ " ")

theorem lines_statusLines (loaded : LoadedProject) (contract : Contract) (word : String) :
    Sample.lines (statusLines loaded contract ++
        ["Compiled:   " ++ loaded.outputPath ++ " (" ++ word ++ ")"]) =
      statusStart loaded contract ++ ("(" ++ word ++ ")\n") := by
  have lines_concat (texts : List String) (text : String) :
      Sample.lines (texts ++ [text]) = Sample.lines texts ++ (text ++ "\n") := by
    simp [Sample.lines, String.join_append]
  rw [lines_concat, statusStart]
  simp only [String.append_assoc]
  rfl

/-- A status report ends with what the text in the place of the stored contract comes to. -/
theorem status_succeeds_iff {now : Instant} {config : String} {tree after : FileTree}
    {result : Nat × String} : Succeeds (perform now config .status) tree result after ↔
      tree = after ∧ ∃ found, Succeeds (Command.contract config) tree found tree ∧
        result = (0, statusStart found.1 found.2 ++
          ("(" ++ freshness (tree.read found.1.outputPath).toOption found.2 ++ ")\n")) := by
  have read (path : String) {stored : Except FileError String} {after : FileTree} :
      Succeeds (monadLift (Files.read path : StateM FileTree (Except FileError String))) tree stored after ↔
        tree.read path = stored ∧ tree = after := by
    rw [succeeds_lift_iff, (looks_read path).run_eq_iff]
    exact Iff.rfl
  constructor
  · intro reports
    rw [perform, succeeds_bind_iff] at reports
    obtain ⟨text, last, shows, ends⟩ := reports
    obtain ⟨rfl, rfl⟩ := succeeds_pure_iff.mp ends
    rw [showStatus, succeeds_bind_iff] at shows
    obtain ⟨found, between, founds, shows⟩ := shows
    obtain ⟨rfl, -⟩ := contract_succeeds_iff.mp founds
    obtain ⟨stored, between, reads, shows⟩ := succeeds_bind_iff.mp shows
    obtain ⟨rfl, rfl⟩ := (read _).mp reads
    obtain ⟨rfl, rfl⟩ := succeeds_pure_iff.mp shows
    exact ⟨rfl, found, founds, congrArg (Prod.mk 0) (lines_statusLines _ _ _)⟩
  · rintro ⟨rfl, found, founds, rfl⟩
    rw [← lines_statusLines]
    refine succeeds_bind_iff.mpr ⟨_, tree, ?_, succeeds_pure⟩
    refine succeeds_bind_iff.mpr ⟨found, tree, founds, ?_⟩
    exact succeeds_bind_iff.mpr ⟨_, tree, (read _).mpr ⟨rfl, rfl⟩, succeeds_pure⟩

end Command
end WireContract
