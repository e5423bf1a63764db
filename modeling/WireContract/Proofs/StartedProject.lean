import WireContract.Proofs.Initialisation
import WireContract.Proofs.ProjectText

namespace WireContract

def LoadedProject.ofText (base text : String) : Except LoadError LoadedProject :=
  match Project.ofYaml? text with
  | none => .error .malformed
  | some project => if project.references.root == "" then .error .emptyRoot else .ok ⟨project, base⟩

namespace FileTree

variable {path file text : String} {tree : FileTree}

theorem isDirectory_of_place {home : List String} (leads : tree.place path = .ok home)
    (isEntry : tree.entryAt? home = some .directory) : outcome (Files.isDirectory path) tree = true := by
  have isFound : tree.lookup path = .ok (home, .directory) := by
    rw [lookup, leads]
    simp [bind, Except.bind, isEntry, pure, Except.pure]
  simp only [outcome, Files.isDirectory, StateT.run_bind, StateT.run_get, pure_bind, isFound]
  rfl

theorem read_of_place {place : List String} (leads : tree.place path = .ok place)
    (isEntry : tree.entryAt? place = some (.file text)) : tree.read path = .ok text := by
  have isFound : tree.lookup path = .ok (place, .file text) := by
    rw [lookup, leads]
    simp [bind, Except.bind, isEntry, pure, Except.pure]
  rw [read, isFound]
  rfl

theorem load_directory {home place : List String} (leads : tree.place path = .ok home)
    (isDirectory : tree.entryAt? home = some .directory)
    (below : tree.place (Path.join path Project.fileName) = .ok place)
    (isFile : tree.entryAt? place = some (.file text)) :
    outcome (LoadedProject.load path) tree = LoadedProject.ofText path text := by
  have isPlaces : Project.places path true = (Path.join path Project.fileName, path) := rfl
  have isRead : outcome (Files.read (Path.join path Project.fileName)) tree = .ok text :=
    read_of_place below isFile
  have isThere := isThere_iff.mpr ⟨place, _, below, isFile⟩
  rw [LoadedProject.load, (looks_isDirectory path).outcome_bind, isDirectory_of_place leads isDirectory, isPlaces]
  dsimp only
  rw [(looks_isThere _).outcome_bind, isThere, if_pos rfl, (looks_read _).outcome_bind, isRead]
  dsimp only
  rw [LoadedProject.ofText]
  cases Project.ofYaml? text with
  | none => rfl
  | some project =>
    dsimp only
    split <;> rfl

end FileTree

namespace Command

open FileTree Running

variable {path name : String} {before after : FileTree}

theorem settle_given {own : String} (settles : Succeeds (settle path (some name)) before own after) : own = name := by
  rw [settle, succeeds_bind_iff] at settles
  obtain ⟨ownName, between, _, settles⟩ := settles
  rw [Option.some_or] at settles
  obtain ⟨holds, between, _, settles⟩ := succeeds_bind_iff.mp settles
  split at settles
  · cases (Prod.mk.inj settles).1
  · exact (succeeds_pure_iff.mp settles).1.symm

theorem load_of_startProject (starts : Succeeds (startProject path (some name)) before () after) :
    outcome (LoadedProject.load path) after = LoadedProject.ofText path (Sample.project name) := by
  rw [startProject_eq, succeeds_bind_iff] at starts
  obtain ⟨_, made, _, starts⟩ := starts
  obtain ⟨own, settled, settles, starts⟩ := succeeds_bind_iff.mp starts
  obtain rfl := settle_given settles
  obtain ⟨rfl, there, _⟩ := settle_succeeds settles
  obtain ⟨_, written, writes, samples⟩ := succeeds_bind_iff.mp starts
  obtain ⟨home, _, leads, _⟩ := isThere_iff.mp there
  obtain ⟨below, notDirectory, rfl⟩ :=
    write_join_cases leads (by decide) (write_succeeds_iff.mp (succeeds_orFail_iff.mp writes))
  obtain ⟨isDirectory, _⟩ := eq_of_place_join leads (by decide) below
  have puts := grows_put_file notDirectory (Sample.project own) (.head [])
  have grows := leads_writeSamples path home _ (puts.place leads)
  rw [show ((writeSamples path : Running (StateM FileTree) Unit).run.run _).2 = after from
    congrArg Prod.snd samples] at grows
  have isNamed : home ++ Path.parts Project.fileName ≠ [] := ne_nil_of_not_directory notDirectory
  refine load_directory (grows.place (puts.place leads)) (grows.directory (puts.directory isDirectory))
    (grows.place (puts.place below)) ?_
  rw [entryAt?_of_ne_nil isNamed]
  refine projectFile_kept grows ?_
  rw [put, Dict.get?_insert]
  exact if_pos rfl

open Yaml in
/-- A project that has been started under a name is loaded from its directory as its file says. It is loaded under
that name if the name is empty or a plain scalar of one line, and is then a project of which nothing but the name is
given. In general it has as its name what the line of the name says, without the blanks around it and the comment
behind it, if that is nothing or a plain scalar. It is not loaded at all if the name looks like the start of an entry
or like a key of its own, or holds a character that no YAML text may hold. -/
theorem load_started (now : Instant) (config path name : String) {before after : FileTree} {answer : Nat × String}
    (starts : Succeeds (perform now config (.init path (some name))) before answer after) :
    let loaded := outcome (LoadedProject.load path) after
    loaded = LoadedProject.ofText path (Sample.project name) ∧
      (name = "" ∨ isPlainLine name.toList = true → loaded = .ok ⟨.named name, path⟩) ∧
      (Sample.isLegible name.toList = true →
        loaded = .ok ⟨.named (String.ofList (lineText name.toList)), path⟩ ∧
          (String.ofList (lineText name.toList) = name ↔ name = "" ∨ isPlainLine name.toList = true)) ∧
      ((∃ blanks text, name.toList = blanks ++ text ∧ (∀ c ∈ blanks, isBlank c = true) ∧ Unreadable text) ∨
          name.toList.all isAllowed = false →
        loaded = .error .malformed) := by
  intro loaded
  have isText : loaded = LoadedProject.ofText path (Sample.project name) := by
    rw [perform, succeeds_bind_iff] at starts
    obtain ⟨_, started, starts, returns⟩ := starts
    obtain ⟨_, rfl⟩ := succeeds_pure_iff.mp returns
    exact load_of_startProject starts
  have reads {text : String} (isProject : Project.ofYaml? (Sample.project name) = some (.named text)) :
      loaded = .ok ⟨.named text, path⟩ := by
    rw [isText, LoadedProject.ofText, isProject]
    rfl
  have fails (noProject : Project.ofYaml? (Sample.project name) = none) : loaded = .error .malformed := by
    rw [isText, LoadedProject.ofText, noProject]
  have legibly (legible : Sample.isLegible name.toList = true) :
      loaded = .ok ⟨.named (String.ofList (lineText name.toList)), path⟩ := reads (Sample.ofYaml?_project legible)
  have isEmpty : name.toList = [] ↔ name = "" := by simp
  have isSame : String.ofList (lineText name.toList) = name ↔ lineText name.toList = name.toList := by
    constructor
    · intro same
      rw [← String.toList_inj, String.toList_ofList] at same
      exact same
    · intro same
      rw [same, String.ofList_toList]
  refine ⟨isText, ?_, fun legible => ⟨legibly legible, ?_⟩, ?_⟩
  · intro isPlain
    have isPlain : name.toList = [] ∨ isPlainLine name.toList = true := isPlain.imp isEmpty.mpr id
    have legible : Sample.isLegible name.toList = true := by
      rcases isPlain with isEmpty | isPlain
      · rw [isEmpty]
        rfl
      · exact Sample.isLegible_of_isPlainLine isPlain
    have isLoaded := legibly legible
    rwa [isSame.mpr ((Sample.lineText_eq_self_iff legible).mpr isPlain)] at isLoaded
  · rw [isSame, Sample.lineText_eq_self_iff legible, isEmpty]
  · rintro (⟨blanks, text, isName, areBlank, unreadable⟩ | notAllowed)
    · exact fails (Sample.ofYaml?_project_unreadable isName areBlank unreadable)
    · exact fails (Sample.ofYaml?_project_of_not_allowed notAllowed)

end Command

namespace Shop

open FileTree Running Command

def holding (entries : List (List String × FileEntry)) : FileTree :=
  entries.foldl (fun tree (place, entry) => tree.put place entry) .empty

def started (name : String) : FileTree :=
  holding
    [ (["shop"], .directory), (["shop", "apiguard.yaml"], .file (Sample.project name)),
      (["shop", "swagger.yaml"], .file Sample.document), (["shop", "requests"], .directory),
      (["shop", "requests", "get-pet.json"], .file Sample.getRequest),
      (["shop", "requests", "add-pet.json"], .file Sample.addRequest),
      (["shop", ".gitignore"], .file Sample.ignored) ]

theorem writes_samples (project document get add ignored : String) :
    let first : List (List String × FileEntry) :=
      [(["shop"], .directory), (["shop", "apiguard.yaml"], .file project)]
    let second := first ++ [(["shop", "swagger.yaml"], .file document)]
    let third := second ++ [(["shop", "requests"], .directory)]
    let fourth := third ++ [(["shop", "requests", "get-pet.json"], .file get)]
    let fifth := fourth ++ [(["shop", "requests", "add-pet.json"], .file add)]
    (holding first).write (Path.join "shop" "swagger.yaml") document = .ok (holding second) ∧
      StateT.run (m := Id) (Files.makeDirectories (Path.join "shop" "requests")) (holding second) =
        (.ok (), holding third) ∧
      (holding third).write (Path.join "shop" "requests/get-pet.json") get = .ok (holding fourth) ∧
      (holding fourth).write (Path.join "shop" "requests/add-pet.json") add = .ok (holding fifth) ∧
      (holding fifth).write (Path.join "shop" ".gitignore") ignored =
        .ok (holding (fifth ++ [(["shop", ".gitignore"], .file ignored)])) :=
  ⟨rfl, rfl, rfl, rfl, rfl⟩

theorem init_succeeds (now : Instant) (config name : String) :
    Succeeds (perform now config (.init "shop" (some name))) .empty (0, "") (started name) := by
  have makes : Succeeds (makeHome "shop") .empty () (holding [(["shop"], .directory)]) := rfl
  have settles : Succeeds (settle "shop" (some name)) (holding [(["shop"], .directory)]) name
    (holding [(["shop"], .directory)]) := rfl
  have writes (text : String) : (holding [(["shop"], .directory)]).write (Path.join "shop" Project.fileName) text =
    .ok (holding [(["shop"], .directory), (["shop", "apiguard.yaml"], .file text)]) := rfl
  obtain ⟨document, requests, getRequest, addRequest, ignored⟩ := writes_samples (Sample.project name) Sample.document
    Sample.getRequest Sample.addRequest Sample.ignored
  have written {path text : String} {before after : FileTree} (writes : before.write path text = .ok after) :
      Succeeds (writeFile path text) before () after := succeeds_orFail_iff.mpr (write_succeeds_iff.mpr writes)
  have samples : Succeeds (writeSamples "shop")
      (holding [(["shop"], .directory), (["shop", "apiguard.yaml"], .file (Sample.project name))])
      () (started name) := by
    refine succeeds_bind_iff.mpr ⟨(), _, written document, ?_⟩
    refine succeeds_bind_iff.mpr ⟨(), _, succeeds_orFail_iff.mpr requests, ?_⟩
    refine succeeds_bind_iff.mpr ⟨(), _, written getRequest, ?_⟩
    exact succeeds_bind_iff.mpr ⟨(), _, written addRequest, written ignored⟩
  rw [perform, succeeds_bind_iff]
  refine ⟨(), started name, ?_, rfl⟩
  rw [startProject_eq]
  refine succeeds_bind_iff.mpr ⟨(), _, makes, succeeds_bind_iff.mpr ⟨name, _, settles, ?_⟩⟩
  exact succeeds_bind_iff.mpr ⟨(), _, written (writes _), samples⟩

theorem pets_loaded :
    Succeeds (perform ⟨0, 0⟩ "apiguard.yaml" (.init "shop" (some "pets"))) .empty (0, "") (started "pets") ∧
      outcome (LoadedProject.load "shop") (started "pets") = .ok ⟨.named "pets", "shop"⟩ :=
  have starts := init_succeeds ⟨0, 0⟩ "apiguard.yaml" "pets"
  ⟨starts, (load_started _ _ _ _ starts).2.1 (.inr (by decide))⟩

/-- A name with a colon in front of a blank is written down as it is, and the project is not loaded again. -/
theorem pets_shop_not_loaded :
    outcome (Files.isThere "shop") FileTree.empty = false ∧
      Succeeds (perform ⟨0, 0⟩ "apiguard.yaml" (.init "shop" (some "pets: shop"))) .empty (0, "")
        (started "pets: shop") ∧
      outcome (LoadedProject.load "shop") (started "pets: shop") = .error .malformed := by
  have starts := init_succeeds ⟨0, 0⟩ "apiguard.yaml" "pets: shop"
  refine ⟨rfl, starts, ?_⟩
  have unreadable : Yaml.Unreadable ("pets".toList ++ ':' :: " shop".toList) := .key (by decide) rfl
  have noProject : Project.ofYaml? (Sample.project "pets: shop") = none :=
    Sample.ofYaml?_project_unreadable rfl (fun c member => absurd member List.not_mem_nil) unreadable
  rw [perform, succeeds_bind_iff] at starts
  obtain ⟨_, _, started, returns⟩ := starts
  obtain ⟨_, rfl⟩ := succeeds_pure_iff.mp returns
  rw [load_of_startProject started, LoadedProject.ofText, noProject]

end Shop
end WireContract
