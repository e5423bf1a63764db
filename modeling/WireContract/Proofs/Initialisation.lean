import WireContract.Proofs.TreeGrowth

namespace WireContract

namespace Sample

def files : List String := ["swagger.yaml", "requests/get-pet.json", "requests/add-pet.json", ".gitignore"]

end Sample

namespace Command

variable {m : Type → Type} [Monad m] [Files m]

def settle (path : String) (name : Option String) : Running m String := do
  let ownName ← Running.orFail FileError.message (Files.fullName path)
  match name.or ownName with
  | none => throw "Could not determine project name from path"
  | some own =>
    let holds ← (Files.isThere (Path.join path Project.fileName) : m Bool)
    if holds then throw ("Directory '" ++ path ++ "' already contains an " ++ Project.fileName)
    else return own

def makeHome (path : String) : Running m Unit := do
  unless ← (Files.isThere path : m Bool) do
    Running.orFail FileError.message (Files.makeDirectories path)

def writeSamples (path : String) : Running m Unit := do
  writeFile (Path.join path "swagger.yaml") Sample.document
  Running.orFail FileError.message (Files.makeDirectories (Path.join path "requests"))
  writeFile (Path.join path "requests/get-pet.json") Sample.getRequest
  writeFile (Path.join path "requests/add-pet.json") Sample.addRequest
  writeFile (Path.join path ".gitignore") Sample.ignored

theorem startProject_eq [LawfulMonad m] (path : String) (name : Option String) :
    (startProject path name : Running m Unit) = (do
      makeHome path
      let own ← settle path name
      writeFile (Path.join path Project.fileName) (Sample.project own)
      writeSamples path) := by
  have throwBind {α β : Type} (message : String) (next : α → Running m β) :
      (throw message >>= next : Running m β) = throw message := by
    apply ExceptT.ext
    simp
  unfold startProject makeHome settle writeSamples
  simp only [bind_assoc]
  refine bind_congr fun isThere => ?_
  cases isThere
  case' false => refine bind_congr fun _ => ?_
  case' true => simp only [if_true, pure_bind]
  all_goals
    refine bind_congr fun own => ?_
    cases name.or own with
    | none => simp only [throwBind]
    | some name =>
      simp only [pure_bind, bind_assoc]
      refine bind_congr fun holds => ?_
      cases holds
      · simp only [Bool.false_eq_true, if_false, pure_bind]
      · simp only [if_true, throwBind]

end Command

namespace FileTree

variable {path : String} {tree : FileTree}

def keyBelow (home : List String) (file : String) : String := key (home ++ Path.parts file)

theorem key_eq_of_keyBelow_eq {home : List String} {file other : String}
    (same : keyBelow home file = keyBelow home other) : key (Path.parts file) = key (Path.parts other) := by
  by_cases isRoot : home = []
  · rwa [keyBelow, keyBelow, isRoot, List.nil_append, List.nil_append] at same
  · rw [keyBelow, keyBelow, key, key, String.intercalate_append_of_ne_nil isRoot (Path.parts_ne_nil file),
      String.intercalate_append_of_ne_nil isRoot (Path.parts_ne_nil other)] at same
    exact String.append_right_inj _ |>.mp same

theorem isThere_iff : outcome (Files.isThere path) tree = true ↔
    ∃ place entry, tree.place path = .ok place ∧ tree.entryAt? place = some entry := by
  have isOutcome : outcome (Files.isThere path) tree = (tree.lookup path).isOk := by
    simp only [outcome, Files.isThere, StateT.run_bind, StateT.run_get, pure_bind]
    cases tree.lookup path <;> rfl
  rw [isOutcome, lookup]
  cases tree.place path with
  | error error => simp [bind, Except.bind, Except.isOk, Except.toBool]
  | ok place =>
    cases isEntry : tree.entryAt? place <;>
      simp [bind, Except.bind, isEntry, pure, Except.pure, Except.isOk, Except.toBool]

theorem looks_fullName (path : String) : Looks (Files.fullName path) := fun _ => rfl

theorem isThere_of_fullName {name : Option String}
    (named : outcome (Files.fullName path) tree = .ok name) : outcome (Files.isThere path) tree = true := by
  have isOutcome : outcome (Files.fullName path) tree = (tree.lookup path).map fun found => found.1.getLast? :=
    rfl
  rw [isOutcome, lookup] at named
  rw [isThere_iff]
  cases isPlace : tree.place path with
  | error error =>
    rw [isPlace] at named
    cases named
  | ok place =>
    cases isEntry : tree.entryAt? place with
    | none =>
      simp only [isPlace, bind, Except.bind, isEntry] at named
      cases named
    | some entry => exact ⟨place, entry, rfl, isEntry⟩

end FileTree

namespace Command

open FileTree Running

variable {path : String} {name : Option String} {tree : FileTree}

theorem looks_settle (path : String) (name : Option String) :
    Looks (settle path name : Running (StateM FileTree) String).run := by
  have lasting := lasting_same
  unfold settle
  refine Running.leads_bind lasting (leads_orFail lasting _ (looks_fullName path)) fun own => ?_
  split
  · exact leads_pure lasting _
  · refine Running.leads_bind lasting (leads_lift lasting (looks_isThere _)) fun holds => ?_
    split <;> exact leads_pure lasting _

theorem settle_succeeds {own : String} {after : FileTree} (settles : Succeeds (settle path name) tree own after) :
    tree = after ∧ outcome (Files.isThere path) tree = true ∧
      outcome (Files.isThere (Path.join path Project.fileName)) tree = false := by
  rw [settle, succeeds_bind_iff] at settles
  obtain ⟨ownName, between, named, settles⟩ := settles
  rw [succeeds_orFail_iff, (looks_fullName path).run_eq_iff] at named
  obtain ⟨named, rfl⟩ := named
  split at settles
  · cases (Prod.mk.inj settles).1
  · obtain ⟨holds, between, looked, settles⟩ := succeeds_bind_iff.mp settles
    obtain ⟨isOutcome, rfl⟩ := (looks_isThere _).run_eq_iff.mp (succeeds_lift_iff.mp looked)
    split at settles
    · cases (Prod.mk.inj settles).1
    · next isAbsent =>
      refine ⟨(succeeds_pure_iff.mp settles).2, isThere_of_fullName named, ?_⟩
      rw [isOutcome]
      exact Bool.eq_false_iff.mpr isAbsent

theorem leads_makeHome (path : String) :
    Leads (Grows []) (makeHome path : Running (StateM FileTree) Unit).run := by
  have lasting := lasting_grows []
  unfold makeHome
  refine Running.leads_bind lasting (leads_lift lasting ((looks_isThere path).leads lasting)) fun there => ?_
  split
  · exact leads_pure lasting _
  · exact leads_orFail lasting _ (leads_makeDirectories path)

theorem makeHome_succeeds (there : outcome (Files.isThere path) tree = true ∨ path = "") :
    Succeeds (makeHome path) tree () tree := by
  rw [makeHome, succeeds_bind_iff]
  refine ⟨outcome (Files.isThere path) tree, tree, ?_, ?_⟩
  · exact succeeds_lift_iff.mpr ((looks_isThere path).run_eq_iff.mpr ⟨rfl, rfl⟩)
  · split
    · exact succeeds_pure
    · next absent =>
      rcases there with there | rfl
      · exact absurd there absent
      · exact succeeds_orFail_iff.mpr rfl

/-- The keys of the files that come with a project file. -/
def sampleKeys (home : List String) : List String := Sample.files.map (keyBelow home)

abbrev GrowsBelow (path : String) (home keys : List String) (before after : FileTree) : Prop :=
  before.place path = .ok home → Grows keys before after

theorem lasting_growsBelow (path : String) (home keys : List String) :
    Lasting (GrowsBelow path home keys) where
  refl tree _ := Grows.refl keys tree
  trans first second leads := (first leads).trans (second ((first leads).place leads))

theorem leads_writeSamples (path : String) (home : List String) :
    Leads (GrowsBelow path home (sampleKeys home)) (writeSamples path : Running (StateM FileTree) Unit).run := by
  have lasting := lasting_growsBelow path home (sampleKeys home)
  have writes {file : String} (listed : file ∈ Sample.files) (text : String) :
      Leads (GrowsBelow path home (sampleKeys home))
        (writeFile (Path.join path file) text : Running (StateM FileTree) Unit).run := by
    refine leads_orFail lasting _ (leads_change lasting fun tree after written leads => ?_)
    have down : ∀ file ∈ Sample.files, Path.goesDown file = true := by decide
    obtain ⟨_, notDirectory, rfl⟩ := write_join_cases leads (down file listed) written
    exact grows_put_file notDirectory text (List.mem_map_of_mem listed)
  unfold writeSamples
  refine Running.leads_bind lasting (writes (by decide) _) fun _ => ?_
  refine Running.leads_bind lasting (leads_orFail lasting _ ?_) fun _ => ?_
  · exact fun tree _ => leads_makeDirectories _ tree
  · refine Running.leads_bind lasting (writes (by decide) _) fun _ => ?_
    refine Running.leads_bind lasting (writes (by decide) _) fun _ => ?_
    exact writes (by decide) _

theorem run_writeFile (path text : String) (tree : FileTree) :
    (writeFile path text : Running (StateM FileTree) Unit).run.run tree =
      match tree.write path text with
      | .ok after => (.ok (), after)
      | .error error => (.error error.message, tree) := by
  have written : StateT.run (m := Id) (Files.write path text) tree =
      match tree.write path text with
      | .ok after => (.ok (), after)
      | .error error => (.error error, tree) := run_change _ tree
  rw [writeFile, run_orFail, written]
  cases tree.write path text <;> rfl

/-- A project file with its name has been written below a path where nothing was, and nothing else but the
files that come with it. -/
def StartedIn (path : String) (before after : FileTree) : Prop :=
  ∃ home own, after.place path = .ok home ∧
    before.entries.get? (keyBelow home Project.fileName) = none ∧
    after.entries.get? (keyBelow home Project.fileName) = some (.file (Sample.project own)) ∧
    Grows (keyBelow home Project.fileName :: sampleKeys home) before after

theorem projectFile_kept {home : List String} {written after : FileTree} {text : String}
    (samples : Grows (sampleKeys home) written after)
    (isWritten : written.entries.get? (keyBelow home Project.fileName) = some (.file text)) :
    after.entries.get? (keyBelow home Project.fileName) = some (.file text) := by
  have listed : keyBelow home Project.fileName ∉ sampleKeys home := by
    intro isSample
    obtain ⟨file, isFile, same⟩ := List.mem_map.mp isSample
    have differ : ∀ file ∈ Sample.files, key (Path.parts file) ≠ key (Path.parts Project.fileName) := by
      decide
    exact differ file isFile (key_eq_of_keyBelow_eq same)
  exact (samples.file isWritten).resolve_right listed

theorem startedIn_of_write {own : String} {before between written : FileTree} (grows : Grows [] before between)
    (there : outcome (Files.isThere path) between = true)
    (absent : outcome (Files.isThere (Path.join path Project.fileName)) between = false)
    (writes : between.write (Path.join path Project.fileName) (Sample.project own) = .ok written) :
    StartedIn path before ((writeSamples path : Running (StateM FileTree) Unit).run.run written).2 := by
  obtain ⟨home, _, leads, _⟩ := isThere_iff.mp there
  obtain ⟨below, notDirectory, rfl⟩ := write_join_cases leads (by decide) writes
  have nothing : between.entryAt? (home ++ Path.parts Project.fileName) = none := by
    cases isEntry : between.entryAt? (home ++ Path.parts Project.fileName) with
    | none => rfl
    | some entry => exact absurd (isThere_iff.mpr ⟨_, entry, below, isEntry⟩) (by simp [absent])
  rw [entryAt?_of_ne_nil (ne_nil_of_not_directory notDirectory)] at nothing
  have puts := grows_put_file notDirectory (Sample.project own) (.head (sampleKeys home))
  have samples := leads_writeSamples path home _ (puts.place leads)
  have isWritten : (between.put (home ++ Path.parts Project.fileName)
      (.file (Sample.project own))).entries.get? (keyBelow home Project.fileName) =
        some (.file (Sample.project own)) := by
    rw [put, Dict.get?_insert]
    exact if_pos rfl
  refine ⟨home, own, samples.place (puts.place leads), grows.absent nothing, projectFile_kept samples isWritten, ?_⟩
  refine ((grows.mono (List.nil_subset _)).trans puts).trans (samples.mono ?_)
  exact List.subset_cons_self _ _

/-- Starting a project fails before anything is written, or writes a project file where there was none. -/
theorem startProject_cases (path : String) (name : Option String) (tree : FileTree) :
    let run := (startProject path name : Running (StateM FileTree) Unit).run.run tree
    ((∃ message, run.1 = .error message) ∧ Grows [] tree run.2 ∧
        (outcome (Files.isThere path) tree = true ∨ path = "" → run.2 = tree)) ∨
      StartedIn path tree run.2 := by
  have made := leads_makeHome path tree
  have stays := @makeHome_succeeds path tree
  rw [startProject_eq, run_bind]
  rcases isHome : (makeHome path : Running (StateM FileTree) Unit).run.run tree with ⟨result, between⟩
  rw [isHome] at made
  have same (there : outcome (Files.isThere path) tree = true ∨ path = "") : between = tree := by
    have stays := stays there
    rw [Succeeds, isHome] at stays
    exact (Prod.mk.inj stays).2
  cases result with
  | error message => exact .inl ⟨⟨message, rfl⟩, made, same⟩
  | ok _ =>
    dsimp only
    rw [run_bind]
    have looks := looks_settle path name between
    rcases isOwn : (settle path name : Running (StateM FileTree) String).run.run between with
      ⟨message | own, settled⟩
    · rw [isOwn] at looks
      obtain rfl : settled = between := looks
      exact .inl ⟨⟨message, rfl⟩, made, same⟩
    · obtain ⟨rfl, there, absent⟩ := settle_succeeds isOwn
      dsimp only
      rw [run_bind, run_writeFile]
      cases writes : between.write (Path.join path Project.fileName) (Sample.project own) with
      | error error => exact .inl ⟨⟨_, rfl⟩, made, same⟩
      | ok written => exact .inr (startedIn_of_write made there absent writes)

theorem home_of_isThere_join {file : String} (given : path ≠ "") (down : Path.goesDown file = true)
    (there : outcome (Files.isThere (Path.join path file)) tree = true) :
    ∃ home, tree.place path = .ok home ∧ outcome (Files.isThere path) tree = true ∧
      tree.entries.get? (keyBelow home file) ≠ none := by
  obtain ⟨place, entry, found, isEntry⟩ := isThere_iff.mp there
  obtain ⟨part, rest, isParts⟩ := List.exists_cons_of_ne_nil (Path.parts_ne_nil file)
  cases leads : tree.place path with
  | error error =>
    rw [place_join tree given (Path.goesDown_iff.mp down).1 isParts, leads] at found
    cases found
  | ok home =>
    obtain ⟨isDirectory, rfl⟩ := eq_of_place_join leads down found
    refine ⟨home, rfl, isThere_iff.mpr ⟨home, .directory, leads, isDirectory⟩, ?_⟩
    have below : home ++ Path.parts file ≠ [] := by simp [isParts]
    rw [entryAt?_of_ne_nil below] at isEntry
    simp [keyBelow, isEntry]

theorem StartedIn.file {before after : FileTree} (started : StartedIn path before after) {key text : String}
    (isFile : before.entries.get? key = some (.file text)) :
    after.entries.get? key = some (.file text) ∨
      ∃ home, after.place path = .ok home ∧ key ∈ sampleKeys home := by
  obtain ⟨home, _, leads, absent, _, grows⟩ := started
  rcases grows.file isFile with same | listed
  · exact .inl same
  · rcases List.mem_cons.mp listed with rfl | isSample
    · rw [isFile] at absent
      cases absent
    · exact .inr ⟨home, leads, isSample⟩

theorem not_startedIn {before after : FileTree}
    (holds : outcome (Files.isThere (Path.join path Project.fileName)) before = true) :
    ¬ StartedIn path before after := by
  rintro ⟨home, _, leadsAfter, absent, _, grows⟩
  obtain ⟨other, leads, _, present⟩ := home_of_isThere_join (given_of_place leadsAfter) (by decide) holds
  rw [grows.place leads] at leadsAfter
  obtain rfl := Except.ok.inj leadsAfter
  exact present absent

theorem run_init (now : Instant) (config path : String) (name : Option String) (tree : FileTree) :
    (perform now config (.init path name) : Running (StateM FileTree) (Nat × String)).run.run tree =
      match (startProject path name : Running (StateM FileTree) Unit).run.run tree with
      | (.ok _, after) => (.ok (0, ""), after)
      | (.error message, after) => (.error message, after) := by
  rw [perform, run_bind]
  rcases (startProject path name : Running (StateM FileTree) Unit).run.run tree with ⟨_ | _, after⟩ <;> rfl

theorem init_cases (now : Instant) (config path : String) (name : Option String) (tree : FileTree) :
    let run := (perform now config (.init path name) : Running (StateM FileTree) (Nat × String)).run.run tree
    ((∃ message, run.1 = .error message) ∧ Grows [] tree run.2 ∧
        (outcome (Files.isThere path) tree = true ∨ path = "" → run.2 = tree)) ∨
      StartedIn path tree run.2 := by
  have started := startProject_cases path name tree
  rw [run_init]
  rcases isStart : (startProject path name : Running (StateM FileTree) Unit).run.run tree with
    ⟨message | _, after⟩
  · rw [isStart] at started
    exact started.imp (.imp (fun _ => ⟨message, rfl⟩) id) id
  · rw [isStart] at started
    refine started.imp ?_ id
    rintro ⟨⟨_, fails⟩, _⟩
    cases fails

/-- Whatever starting a project comes to, a file that is there stays as it is, unless it is in the place of
one that comes with a project file. It fails before anything is written, and then the tree stays as it is if
the directory was there, or else it writes a project file where there was none; where there is one it fails
and the tree stays as it is. -/
theorem init_spares_files (now : Instant) (config path : String) (name : Option String) (tree : FileTree) :
    let run := (perform now config (.init path name) : Running (StateM FileTree) (Nat × String)).run.run tree
    (∀ key text, tree.entries.get? key = some (.file text) →
        run.2.entries.get? key = some (.file text) ∨
          ∃ home, run.2.place path = .ok home ∧ key ∈ sampleKeys home) ∧
      (((∃ message, run.1 = .error message) ∧ Grows [] tree run.2 ∧
          (outcome (Files.isThere path) tree = true → run.2 = tree)) ∨
        StartedIn path tree run.2) ∧
      (outcome (Files.isThere (Path.join path Project.fileName)) tree = true →
        ∃ message, run = (.error message, tree)) := by
  intro run
  have outcomes := init_cases now config path name tree
  refine ⟨?_, outcomes.imp (fun fails => ⟨fails.1, fails.2.1, fun there => fails.2.2 (.inl there)⟩) id, ?_⟩
  · intro key text isFile
    rcases outcomes with ⟨_, grows, _⟩ | started
    · exact .inl ((grows.file isFile).resolve_right List.not_mem_nil)
    · exact started.file isFile
  · intro holds
    obtain ⟨⟨message, isError⟩, _, same⟩ := outcomes.resolve_right (not_startedIn holds)
    refine ⟨message, Prod.ext isError (same ?_)⟩
    by_cases given : path = ""
    · exact .inr given
    · obtain ⟨_, _, there, _⟩ := home_of_isThere_join given (by decide) holds
      exact .inl there

def crowded : FileTree :=
  ⟨⟨[("work", .directory), ("work/requests", .file ""), ("work/swagger.yaml", .file "mine")], by decide⟩,
    ["work"]⟩

theorem run_crowded (now : Instant) (config : String) :
    (perform now config (.init "." (some "api")) : Running (StateM FileTree) (Nat × String)).run.run crowded =
      (.error FileError.exists.message,
        (crowded.put ["work", "apiguard.yaml"] (.file (Sample.project "api"))).put ["work", "swagger.yaml"]
          (.file Sample.document)) := by
  have isHome : (makeHome "." : Running (StateM FileTree) Unit).run.run crowded = (.ok (), crowded) := rfl
  have isOwn : (settle "." (some "api") : Running (StateM FileTree) String).run.run crowded =
      (.ok "api", crowded) := rfl
  have writes (first second : String) :
      crowded.write (Path.join "." Project.fileName) first =
          .ok (crowded.put ["work", "apiguard.yaml"] (.file first)) ∧
        (crowded.put ["work", "apiguard.yaml"] (.file first)).write (Path.join "." "swagger.yaml") second =
          .ok ((crowded.put ["work", "apiguard.yaml"] (.file first)).put ["work", "swagger.yaml"]
            (.file second)) := ⟨rfl, rfl⟩
  have fails (first second : String) :
      StateT.run (m := Id) (Files.makeDirectories (Path.join "." "requests"))
          ((crowded.put ["work", "apiguard.yaml"] (.file first)).put ["work", "swagger.yaml"]
            (.file second)) =
        (.error .exists, (crowded.put ["work", "apiguard.yaml"] (.file first)).put ["work", "swagger.yaml"]
          (.file second)) := rfl
  rw [perform, run_bind, startProject_eq, run_bind, isHome]
  dsimp only
  rw [run_bind, isOwn]
  dsimp only
  rw [run_bind, run_writeFile, (writes _ "").1]
  dsimp only
  rw [writeSamples, run_bind, run_writeFile, (writes _ _).2]
  dsimp only
  rw [run_bind, run_orFail, fails]

/-- A file that comes with a project file can replace one that is there, and a failure does not undo what was
written before. -/
theorem init_replaces_and_leaves :
    ∃ now config path name, ∃ tree : FileTree,
      let run := (perform now config (.init path name) : Running (StateM FileTree) (Nat × String)).run.run tree
      ¬ (∀ key text, tree.entries.get? key = some (.file text) →
          run.2.entries.get? key = some (.file text)) ∧
        ¬ ∀ message, run.1 = .error message → run.2 = tree := by
  refine ⟨⟨0, 0⟩, "apiguard.yaml", ".", some "api", crowded, ?_⟩
  rw [run_crowded]
  have replaced (first second : String) : ((crowded.put ["work", "apiguard.yaml"] (.file first)).put
      ["work", "swagger.yaml"] (.file second)).entries.get? "work/swagger.yaml" = some (.file second) := rfl
  have isNew : Sample.document ≠ "mine" := by decide
  constructor
  · intro kept
    have same := kept "work/swagger.yaml" "mine" rfl
    rw [replaced] at same
    exact isNew (FileEntry.file.inj (Option.some.inj same))
  · intro kept
    have same := congrArg (fun tree => tree.entries.get? "work/swagger.yaml") (kept _ rfl)
    dsimp only at same
    rw [replaced] at same
    exact isNew (FileEntry.file.inj (Option.some.inj same))

end Command
end WireContract
