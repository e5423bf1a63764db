import WireContract.Proofs.BodyPaths
import WireContract.Proofs.CommandRuns

/-!
How a tree of files grows. What is made below a path is put below the place that the path leads to; a change
makes directories where nothing was and writes files under known keys, and leaves all else. Main statements:
`place_join`, `Grows` with `Grows.place`, and `leads_makeDirectories`.
-/

namespace WireContract

namespace Path

def body (path : String) : List Char := if isAbsolute path then path.toList.drop 1 else path.toList

theorem parts_eq (path : String) : parts path = ((body path).splitOn '/').map String.ofList := rfl

theorem body_append {path : String} (given : path ≠ "") (file : String) :
    body (path ++ file) = body path ++ file.toList := by
  cases letters : path.toList with
  | nil => exact absurd (String.toList_eq_nil_iff.mp letters) given
  | cons first rest =>
    simp only [body, isAbsolute, String.toList_append, letters, List.cons_append, List.head?_cons]
    split <;> rfl

/-- The parts of a file below a path follow those of the path; an empty last part makes way. -/
theorem parts_join {path file : String} (given : path ≠ "") (relative : isAbsolute file = false) :
    ∃ front, (parts path = front ∨ parts path = front ++ [""]) ∧
      parts (join path file) = front ++ parts file := by
  have ownParts : parts file = (file.toList.splitOn '/').map String.ofList := by
    rw [parts_eq, body, relative]
    rfl
  rw [join, relative, if_neg Bool.false_ne_true, ownParts]
  split
  · next ends =>
    have endsInSlash : path.toList.getLast? = some '/' := by simpa [given] using ends
    rw [parts_eq, parts_eq, body_append given]
    obtain ⟨start, isPath⟩ := List.getLast?_eq_some_iff.mp endsInSlash
    cases start with
    | nil =>
      have isEmpty : body path = [] := by simp [body, isAbsolute, isPath]
      exact ⟨[], .inr (by rw [isEmpty]; rfl), by rw [isEmpty]; rfl⟩
    | cons first rest =>
      obtain ⟨inner, isBody⟩ : ∃ inner, body path = inner ++ ['/'] := by
        simp only [body, isAbsolute, isPath]
        split
        · exact ⟨rest, rfl⟩
        · exact ⟨first :: rest, rfl⟩
      refine ⟨(inner.splitOn '/').map String.ofList, .inr ?_, ?_⟩
      · rw [isBody, List.splitOn_append_cons_self, List.map_append]
        rfl
      · rw [isBody, List.append_assoc, List.singleton_append, List.splitOn_append_cons_self, List.map_append]
  · refine ⟨parts path, .inl rfl, ?_⟩
    have slash : ("/" ++ file).toList = '/' :: file.toList := String.toList_append
    rw [parts_eq, parts_eq, String.append_assoc, body_append given, slash, List.splitOn_append_cons_self,
      List.map_append]

theorem join_ne_empty {path : String} (given : path ≠ "") {file : String}
    (relative : isAbsolute file = false) : join path file ≠ "" := by
  rw [join, relative, if_neg Bool.false_ne_true]
  intro isEmpty
  split at isEmpty
  · exact given (String.append_eq_empty_iff.mp isEmpty).1
  · rw [String.append_assoc] at isEmpty
    exact given (String.append_eq_empty_iff.mp isEmpty).1

theorem isAbsolute_join {path : String} (given : path ≠ "") {file : String}
    (relative : isAbsolute file = false) : isAbsolute (join path file) = isAbsolute path := by
  have append (other : String) : isAbsolute (path ++ other) = isAbsolute path := by
    cases letters : path.toList with
    | nil => exact absurd (String.toList_eq_nil_iff.mp letters) given
    | cons first rest => simp [isAbsolute, letters]
  rw [join, relative, if_neg Bool.false_ne_true]
  split
  · exact append file
  · rw [String.append_assoc]
    exact append _

def goesDown (file : String) : Bool :=
  !isAbsolute file && (parts file).all fun part => names part && part != ".."

theorem goesDown_iff {file : String} : goesDown file = true ↔
    isAbsolute file = false ∧ ∀ part ∈ parts file, names part = true ∧ part ≠ ".." := by
  simp [goesDown]

theorem parts_ne_nil (path : String) : parts path ≠ [] := by
  rw [parts_eq, ne_eq, List.map_eq_nil_iff]
  exact List.splitOn_ne_nil _ _

end Path

namespace FileTree

section Paths

variable (tree : FileTree)

theorem walk_append (start front back : List String) :
    tree.walk start (front ++ back) = (tree.walk start front).bind fun place => tree.walk place back := by
  induction front generalizing start with
  | nil => rfl
  | cons part rest ih =>
    rw [List.cons_append, walk, walk]
    cases tree.entryAt? start with
    | none => rfl
    | some entry =>
      cases entry with
      | file text => rfl
      | directory =>
        dsimp only
        split
        · exact ih _
        · split <;> exact ih _

/-- A part that names nothing asks for a directory, as any part behind it does. -/
theorem walk_unnamed (start : List String) (part : String) (rest : List String) :
    tree.walk start ("" :: part :: rest) = tree.walk start (part :: rest) := by
  cases isEntry : tree.entryAt? start with
  | none => simp only [walk, isEntry]
  | some entry =>
    cases entry with
    | file text => simp only [walk, isEntry]
    | directory => simp [walk, isEntry, Path.names]

theorem place_join {path file part : String} {rest : List String} (given : path ≠ "")
    (relative : Path.isAbsolute file = false) (isParts : Path.parts file = part :: rest) :
    tree.place (Path.join path file) =
      (tree.place path).bind fun home => tree.walk home (part :: rest) := by
  have notEmpty (text : String) (differs : text ≠ "") : ¬ (text == "") = true := by simpa using differs
  rw [place, place, follow, follow, if_neg (notEmpty _ (Path.join_ne_empty given relative)),
    if_neg (notEmpty _ given), Path.isAbsolute_join given relative]
  obtain ⟨front, ownParts, allParts⟩ := Path.parts_join given relative
  rw [allParts, isParts]
  rcases ownParts with ownParts | ownParts
  · rw [ownParts, walk_append]
  · rw [ownParts, ← walk_append, List.append_assoc, List.singleton_append, walk_append, walk_append]
    simp only [walk_unnamed]

theorem walk_down {parts start reached : List String}
    (down : ∀ part ∈ parts, Path.names part = true ∧ part ≠ "..")
    (walks : tree.walk start parts = .ok reached) : reached = start ++ parts := by
  induction parts generalizing start with
  | nil => rw [List.append_nil, Except.ok.inj walks]
  | cons part rest ih =>
    obtain ⟨isName, notUp⟩ := down part (.head _)
    rw [walk] at walks
    split at walks
    · cases walks
    · cases walks
    · rw [if_neg (by simpa using notUp), if_pos isName] at walks
      rw [ih (fun other member => down other (.tail _ member)) walks, List.append_assoc,
        List.singleton_append]

variable {tree}

theorem given_of_place {path : String} {home : List String} (leads : tree.place path = .ok home) :
    path ≠ "" := by
  rintro rfl
  cases leads

theorem eq_of_place_join {path file : String} {home place : List String}
    (leads : tree.place path = .ok home) (down : Path.goesDown file = true)
    (found : tree.place (Path.join path file) = .ok place) :
    tree.entryAt? home = some .directory ∧ place = home ++ Path.parts file := by
  obtain ⟨relative, names⟩ := Path.goesDown_iff.mp down
  obtain ⟨part, rest, isParts⟩ := List.exists_cons_of_ne_nil (Path.parts_ne_nil file)
  rw [place_join tree (given_of_place leads) relative isParts, leads] at found
  rw [isParts] at names ⊢
  refine ⟨?_, tree.walk_down names found⟩
  replace found : tree.walk home (part :: rest) = .ok place := found
  rw [walk] at found
  split at found
  · cases found
  · cases found
  · assumption

theorem write_join_cases {path file text : String} {home : List String} {after : FileTree}
    (leads : tree.place path = .ok home) (down : Path.goesDown file = true)
    (written : tree.write (Path.join path file) text = .ok after) :
    tree.place (Path.join path file) = .ok (home ++ Path.parts file) ∧
      tree.entryAt? (home ++ Path.parts file) ≠ some .directory ∧
      after = tree.put (home ++ Path.parts file) (.file text) := by
  obtain ⟨place, isPlace, notDirectory, noSlash, rfl⟩ := write_cases written
  rw [newPlace_eq_place noSlash] at isPlace
  obtain ⟨_, rfl⟩ := eq_of_place_join leads down isPlace
  exact ⟨isPlace, notDirectory, rfl⟩

end Paths

variable {before between after : FileTree} {keys : List String}

/-- A tree has become another: new directories have been made, and files have been written under some keys,
over files or where nothing was. -/
structure Grows (keys : List String) (before after : FileTree) : Prop where
  working : after.working = before.working
  entry : ∀ key, after.entries.get? key = before.entries.get? key ∨
    (before.entries.get? key = none ∧ after.entries.get? key = some .directory) ∨
    (key ∈ keys ∧ before.entries.get? key ≠ some .directory ∧
      ∃ text, after.entries.get? key = some (.file text))

theorem Grows.refl (keys : List String) (tree : FileTree) : Grows keys tree tree :=
  ⟨rfl, fun _ => .inl rfl⟩

theorem Grows.trans (first : Grows keys before between) (second : Grows keys between after) :
    Grows keys before after := by
  refine ⟨second.working.trans first.working, ?_⟩
  intro key
  rcases second.entry key with same | ⟨absent, made⟩ | ⟨written, notDirectory, isFile⟩
  · rw [same]
    exact first.entry key
  · rcases first.entry key with same | ⟨_, made'⟩ | ⟨_, _, text, isFile⟩
    · exact .inr (.inl ⟨same.symm.trans absent, made⟩)
    · rw [absent] at made'
      cases made'
    · rw [absent] at isFile
      cases isFile
  · rcases first.entry key with same | ⟨_, made⟩ | ⟨_, notDirectory', _⟩
    · rw [same] at notDirectory
      exact .inr (.inr ⟨written, notDirectory, isFile⟩)
    · exact absurd made notDirectory
    · exact .inr (.inr ⟨written, notDirectory', isFile⟩)

theorem Grows.mono {more : List String} (grows : Grows keys before after) (within : keys ⊆ more) :
    Grows more before after :=
  ⟨grows.working, fun key => (grows.entry key).imp id (.imp id (.imp (@within key) id))⟩

theorem Grows.directory (grows : Grows keys before after) {place : List String}
    (isDirectory : before.entryAt? place = some .directory) :
    after.entryAt? place = some .directory := by
  by_cases isRoot : place = []
  · rw [isRoot]
    rfl
  · rw [entryAt?_of_ne_nil isRoot] at isDirectory ⊢
    rcases grows.entry (key place) with same | ⟨absent, _⟩ | ⟨_, notDirectory, _⟩
    · exact same.trans isDirectory
    · rw [isDirectory] at absent
      cases absent
    · exact absurd isDirectory notDirectory

theorem Grows.file (grows : Grows keys before after) {key text : String}
    (isFile : before.entries.get? key = some (.file text)) :
    after.entries.get? key = some (.file text) ∨ key ∈ keys := by
  rcases grows.entry key with same | ⟨absent, _⟩ | ⟨listed, _⟩
  · exact .inl (same.trans isFile)
  · rw [isFile] at absent
    cases absent
  · exact .inr listed

theorem Grows.absent (grows : Grows keys before after) {key : String}
    (absent : after.entries.get? key = none) : before.entries.get? key = none := by
  rcases grows.entry key with same | ⟨wasAbsent, _⟩ | ⟨_, _, text, isFile⟩
  · exact same.symm.trans absent
  · exact wasAbsent
  · rw [absent] at isFile
    cases isFile

theorem grows_put_directory {tree : FileTree} {place : List String}
    (absent : tree.entryAt? place = none) (keys : List String) :
    Grows keys tree (tree.put place .directory) := by
  have below : place ≠ [] := by
    rintro rfl
    cases absent
  rw [entryAt?_of_ne_nil below] at absent
  refine ⟨rfl, ?_⟩
  intro other
  rw [put, Dict.get?_insert]
  split
  · next same => exact .inr (.inl ⟨same ▸ absent, rfl⟩)
  · exact .inl rfl

theorem grows_put_file {tree : FileTree} {place : List String}
    (notDirectory : tree.entryAt? place ≠ some .directory) (text : String) (listed : key place ∈ keys) :
    Grows keys tree (tree.put place (.file text)) := by
  rw [entryAt?_of_ne_nil (ne_nil_of_not_directory notDirectory)] at notDirectory
  refine ⟨rfl, ?_⟩
  intro other
  rw [put, Dict.get?_insert]
  split
  · next same =>
    subst same
    exact .inr (.inr ⟨listed, notDirectory, text, rfl⟩)
  · exact .inl rfl

theorem Grows.walk (grows : Grows keys before after) {start reached : List String} {parts : List String}
    (walks : before.walk start parts = .ok reached) : after.walk start parts = .ok reached :=
  walk_of_directories (fun _ => grows.directory) walks

theorem Grows.place (grows : Grows keys before after) {path : String} {home : List String}
    (leads : before.place path = .ok home) : after.place path = .ok home := by
  rw [FileTree.place, follow] at leads ⊢
  split at leads
  · cases leads
  · next isGiven =>
    rw [if_neg isGiven, grows.working]
    exact grows.walk leads

theorem makeDirectory_cases {tree after : FileTree} {path : String} (made : tree.makeDirectory path = .ok after) :
    ∃ place, tree.entryAt? place = none ∧ after = tree.put place .directory := by
  cases isPlace : tree.newPlace path with
  | error error =>
    rw [makeDirectory, isPlace] at made
    cases made
  | ok place =>
    rw [makeDirectory, isPlace] at made
    replace made : (if (tree.entryAt? place).isSome = true then Except.error FileError.exists
        else .ok (tree.put place .directory)) = .ok after := made
    split at made
    · cases made
    · next absent => exact ⟨place, by simpa using absent, (Except.ok.inj made).symm⟩

def Leads {α : Type} (rel : FileTree → FileTree → Prop) (action : StateM FileTree α) : Prop :=
  ∀ tree, rel tree (action.run tree).2

/-- A relation of trees that holds along a run if every step keeps to it. -/
structure Lasting (rel : FileTree → FileTree → Prop) : Prop where
  refl : ∀ tree, rel tree tree
  trans : ∀ {a b c}, rel a b → rel b c → rel a c

theorem lasting_same : Lasting fun before after => after = before :=
  ⟨fun _ => rfl, fun first second => second.trans first⟩

theorem lasting_grows (keys : List String) : Lasting (Grows keys) := ⟨Grows.refl keys, Grows.trans⟩

section Leads

variable {α β : Type} {rel : FileTree → FileTree → Prop}

theorem Looks.leads {action : StateM FileTree α} (looks : Looks action) (lasting : Lasting rel) :
    Leads rel action := by
  intro tree
  rw [looks]
  exact lasting.refl tree

theorem leads_pure (lasting : Lasting rel) (a : α) : Leads rel (pure a : StateM FileTree α) :=
  (looks_pure a).leads lasting

theorem leads_bind (lasting : Lasting rel) {first : StateM FileTree α} {next : α → StateM FileTree β}
    (firstLeads : Leads rel first) (nextLeads : ∀ a, Leads rel (next a)) : Leads rel (first >>= next) :=
  fun tree => lasting.trans (firstLeads tree) (nextLeads _ _)

theorem leads_change (lasting : Lasting rel) {act : FileTree → Except FileError FileTree}
    (changes : ∀ tree after, act tree = .ok after → rel tree after) : Leads rel (change act) := by
  intro tree
  rw [run_change]
  split
  · next after changed => exact changes tree after changed
  · exact lasting.refl tree

end Leads

theorem leads_makeDirectory (path : String) :
    Leads (Grows keys) (Files.makeDirectory path : StateM FileTree (Except FileError Unit)) := by
  refine leads_change (lasting_grows keys) ?_
  intro tree after made
  obtain ⟨place, absent, rfl⟩ := makeDirectory_cases made
  exact grows_put_directory absent keys

theorem leads_ensureDirectory (path : String) {instead : FileError → StateM FileTree (Except FileError Unit)}
    (insteadLeads : ∀ error, Leads (Grows keys) (instead error)) :
    Leads (Grows keys) (Files.ensureDirectory path instead) := by
  have lasting := lasting_grows keys
  refine leads_bind lasting (leads_makeDirectory path) fun made => ?_
  cases made with
  | ok _ => exact leads_pure lasting _
  | error error =>
    dsimp only
    split
    · exact insteadLeads error
    · refine leads_bind lasting ((looks_isDirectory path).leads lasting) fun isDirectory => ?_
      split <;> exact leads_pure lasting _

/-- Nothing changes but that directories are made, even where they cannot all be made. -/
theorem leads_makeDirectories (path : String) :
    Leads (Grows keys) (Files.makeDirectories path : StateM FileTree (Except FileError Unit)) := by
  have lasting := lasting_grows keys
  have bounded (fuel : Nat) (path : String) :
      Leads (Grows keys) (Files.makeDirectoriesWith fuel path : StateM FileTree (Except FileError Unit)) := by
    induction fuel generalizing path with
    | zero => exact leads_pure lasting _
    | succ fuel ih =>
      rw [Files.makeDirectoriesWith]
      split
      · exact leads_pure lasting _
      · refine leads_ensureDirectory path fun _ => ?_
        split
        · exact leads_pure lasting _
        · next parent _ =>
          refine leads_bind lasting (ih parent) fun made => ?_
          cases made with
          | error error => exact leads_pure lasting _
          | ok _ => exact leads_ensureDirectory path fun error => leads_pure lasting _
  exact bounded _ path

end FileTree

namespace Running

open FileTree

variable {α β : Type} {rel : FileTree → FileTree → Prop}

theorem leads_bind (lasting : Lasting rel) {first : Running (StateM FileTree) α}
    {next : α → Running (StateM FileTree) β} (firstLeads : Leads rel first.run)
    (nextLeads : ∀ a, Leads rel (next a).run) : Leads rel (first >>= next).run := by
  show Leads rel (first.run >>= ExceptT.bindCont next)
  refine FileTree.leads_bind lasting firstLeads fun result => ?_
  cases result with
  | ok a => exact nextLeads a
  | error message => exact leads_pure lasting _

theorem leads_lift (lasting : Lasting rel) {action : StateM FileTree α} (leads : Leads rel action) :
    Leads rel (monadLift action : Running (StateM FileTree) α).run :=
  FileTree.leads_bind lasting leads fun _ => leads_pure lasting _

theorem leads_orFail {ε : Type} (lasting : Lasting rel) (message : ε → String)
    {action : StateM FileTree (Except ε α)} (leads : Leads rel action) :
    Leads rel (orFail message action).run := by
  refine leads_bind lasting (leads_lift lasting leads) fun result => ?_
  cases result <;> exact leads_pure lasting _

end Running
end WireContract
