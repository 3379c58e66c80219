import EnergyReport.Files.Tree
import EnergyReport.Proofs.Files.Path

namespace EnergyReport

/-! What a tree of files is like after a file has been written.

Places in a tree are told by the names on the way from the root, since several paths lead to the
same place. -/

namespace FileTree

def toEntry : FileTree → Entry
  | .file content => .file content
  | .directory _ => .directory

/-- The node to which names lead from the root. -/
def descend (tree : FileTree) : List Text → Option FileTree
  | [] => some tree
  | name :: more => (child? name tree).bind fun next => next.descend more

/-- What stands at a place of a tree. -/
def entryAt (tree : FileTree) (names : List Text) : Option Entry :=
  (tree.descend names).map toEntry

/-- Where the parts of a path lead, from a place that is told in reverse order. -/
def walk (names : List Text) : List Text → List Text
  | [] => names
  | part :: more =>
      if Path.isIdle part then walk names more
      else if part = ['.', '.'] then walk names.tail more
      else walk (part :: names) more

/-- The place to which a path leads. -/
def place (workingDirectory path : Path) : List Text :=
  (walk [] (Path.parts (Path.join workingDirectory path))).reverse

/-- The tree after a file has been written at a path. -/
def writeFile (tree : FileTree) (workingDirectory path : Path) (content : ByteArray) : FileTree :=
  put (.file content) (place workingDirectory path) tree

/-! ### The way to a place -/

/-- The nodes on the way to a place, and the node there. Names and nodes are told from the place
upward. -/
inductive Way (root : FileTree) : List Text → List FileTree → FileTree → Prop where
  | root : Way root [] [] root
  | down {names : List Text} {above : List FileTree} {node next : FileTree} {name : Text}
      (way : Way root names above node) (child : child? name node = some next) :
      Way root (name :: names) (node :: above) next

/-- Every part of a path starts from a directory, and no name is missing or too long. -/
def Passes (root : FileTree) (names : List Text) : List Text → Prop
  | [] => True
  | part :: more =>
      root.entryAt names.reverse = some .directory ∧
        if Path.isIdle part then Passes root names more
        else if part = ['.', '.'] then Passes root names.tail more
        else (String.ofList part).utf8ByteSize ≤ longestName ∧
          root.entryAt (part :: names).reverse ≠ none ∧ Passes root (part :: names) more

theorem descend_append (tree : FileTree) (front back : List Text) :
    tree.descend (front ++ back) = (tree.descend front).bind fun node => node.descend back := by
  induction front generalizing tree with
  | nil => rfl
  | cons name more ih => cases found : child? name tree <;> simp [descend, found, ih]

theorem entryAt_append {tree node : FileTree} {front : List Text}
    (there : tree.descend front = some node) (back : List Text) :
    tree.entryAt (front ++ back) = node.entryAt back := by
  rw [entryAt, descend_append, there, Option.bind_some, entryAt]

theorem entryAt_cons (tree : FileTree) (name : Text) (more : List Text) :
    tree.entryAt (name :: more) = (child? name tree).bind fun next => next.entryAt more := by
  cases child : child? name tree <;> simp [entryAt, descend, child]

theorem entryAt_file (content : ByteArray) (name : Text) (more : List Text) :
    (file content).entryAt (name :: more) = none :=
  rfl

theorem walk_append (names front back : List Text) :
    walk names (front ++ back) = walk (walk names front) back := by
  induction front generalizing names with
  | nil => rfl
  | cons part more ih => simp only [List.cons_append, walk, ih, apply_ite (walk · back)]

theorem passes_append {root : FileTree} {names front back : List Text} :
    Passes root names (front ++ back) ↔
      Passes root names front ∧ Passes root (walk names front) back := by
  induction front generalizing names with
  | nil => simp [Passes, walk]
  | cons part more ih =>
      simp only [List.cons_append, Passes, walk]
      split
      · rw [ih, and_assoc]
      · split <;> simp only [ih, and_assoc]

namespace Way

variable {root node found : FileTree} {names parts : List Text} {above : List FileTree}

theorem descend (way : Way root names above node) : root.descend names.reverse = some node := by
  induction way with
  | root => rfl
  | down _ child ih => simp [descend_append, ih, FileTree.descend, child]

theorem entryAt (way : Way root names above node) :
    root.entryAt names.reverse = some node.toEntry := by
  rw [FileTree.entryAt, way.descend, Option.map_some]

theorem entryAt_child (way : Way root names above node) (name : Text) :
    root.entryAt (name :: names).reverse = (child? name node).map toEntry := by
  rw [List.reverse_cons, entryAt_append way.descend, FileTree.entryAt, FileTree.descend]
  cases child? name node <;> rfl

theorem passes_of_follow (way : Way root names above node)
    (followed : follow node above parts = .ok found) : Passes root names parts := by
  induction parts generalizing names above node with
  | nil => trivial
  | cons part more ih =>
      cases node with
      | file => contradiction
      | directory entries =>
          refine ⟨way.entryAt, ?_⟩
          simp only [follow] at followed
          split at followed
          · rename_i idle
            rw [if_pos idle]
            exact ih way followed
          · rename_i busy
            rw [if_neg busy]
            split at followed
            · rename_i up
              rw [if_pos up]
              cases way with
              | root => exact ih .root followed
              | down way child => exact ih way followed
            · rename_i named
              rw [if_neg named]
              split at followed
              · contradiction
              · rename_i short
                split at followed
                · rename_i next child
                  refine ⟨Nat.le_of_not_lt short, ?_, ih (way.down child) followed⟩
                  rw [way.entryAt_child, child]
                  simp
                · contradiction

/-- What a path that passes leads to, and how it goes on from there. -/
theorem follow_append (way : Way root names above node) (passes : Passes root names parts) :
    ∃ others last, Way root (walk names parts) others last ∧
      ∀ back, follow node above (parts ++ back) = follow last others back := by
  induction parts generalizing names above node with
  | nil => exact ⟨above, node, way, fun _ => rfl⟩
  | cons part more ih =>
      obtain ⟨isDirectory, passes⟩ := passes
      rw [way.entryAt] at isDirectory
      cases node with
      | file => simp [toEntry] at isDirectory
      | directory entries =>
          simp only [List.cons_append, follow, walk]
          split at passes
          · rename_i idle
            simp only [if_pos idle]
            exact ih way passes
          · rename_i busy
            simp only [if_neg busy]
            split at passes
            · rename_i up
              simp only [if_pos up]
              cases way with
              | root => exact ih .root passes
              | down way child => exact ih way passes
            · rename_i named
              obtain ⟨short, present, passes⟩ := passes
              simp only [if_neg named, if_neg (Nat.not_lt_of_le short)]
              rw [way.entryAt_child] at present
              cases child : child? part (.directory entries) with
              | none => simp [child] at present
              | some next => exact ih (way.down child) passes

end Way

/-! ### What a path leads to -/

section Entries

variable {tree : FileTree} {workingDirectory path : Path} {entry : Entry}

/-- A path that can be followed at all. -/
structure Legal (path : Path) : Prop where
  zeroless : '\x00' ∉ path
  nonempty : path ≠ []
  short : (String.ofList path).utf8ByteSize ≤ longestPath

theorem node_of_legal (legal : Legal path) :
    node tree workingDirectory path =
      follow tree [] (Path.parts (Path.join workingDirectory path)) := by
  have nonempty : path.isEmpty = false := by simpa using legal.nonempty
  simp [node, legal.zeroless, nonempty, Nat.not_lt_of_le legal.short]

theorem files_entry (path : Path) :
    (tree.files workingDirectory).entry path =
      (node tree workingDirectory path).map toEntry := by
  cases found : node tree workingDirectory path with
  | error error => simp [files, found, Except.map]
  | ok node => cases node <;> simp [files, found, Except.map, toEntry]

variable (tree workingDirectory) in
theorem legal_of_node (nonempty : path ≠ [])
    (zeroless : node tree workingDirectory path ≠ .error .zeroInName)
    (short : node tree workingDirectory path ≠ .error .nameTooLong) : Legal path := by
  unfold node at zeroless short
  split at zeroless
  · contradiction
  · rename_i noZero
    rw [if_neg noZero] at short
    split at short
    · rename_i empty
      exact absurd (List.isEmpty_iff.mp empty) nonempty
    · split at short
      · contradiction
      · rename_i fits
        exact ⟨noZero, nonempty, Nat.le_of_not_lt fits⟩

theorem entry_eq_ok_iff :
    (tree.files workingDirectory).entry path = .ok entry ↔
      Legal path ∧ Passes tree [] (Path.parts (Path.join workingDirectory path)) ∧
        tree.entryAt (place workingDirectory path) = some entry := by
  rw [files_entry]
  constructor
  · intro found
    cases there : node tree workingDirectory path with
    | error error => simp [there, Except.map] at found
    | ok last =>
        have nonempty : path ≠ [] := by
          rintro rfl
          simp [node] at there
        have legal :=
          legal_of_node tree workingDirectory nonempty (by simp [there]) (by simp [there])
        rw [there] at found
        rw [node_of_legal legal] at there
        have passes := Way.root.passes_of_follow there
        obtain ⟨others, same, way, goesOn⟩ := Way.root.follow_append passes
        have followed := goesOn []
        rw [List.append_nil, there, follow] at followed
        cases followed
        refine ⟨legal, passes, ?_⟩
        rw [place, way.entryAt]
        simpa [Except.map] using found
  · rintro ⟨legal, passes, there⟩
    obtain ⟨others, last, way, goesOn⟩ := Way.root.follow_append passes
    have followed := goesOn []
    rw [List.append_nil] at followed
    rw [node_of_legal legal, followed, follow]
    rw [place, way.entryAt] at there
    simpa [Except.map] using there

end Entries

/-! ### Writing a file -/

theorem find?_replaced (entries : List (Text × FileTree)) (name other : Text) (node : FileTree) :
    (entries.filter (·.1 ≠ name) ++ [(name, node)]).find? (·.1 = other) =
      if other = name then some (name, node) else entries.find? (·.1 = other) := by
  rw [List.find?_append]
  split
  · rename_i same
    have absent : (entries.filter (·.1 ≠ name)).find? (·.1 = other) = none := by
      simp [same]
    rw [absent]
    simp [same]
  · rename_i apart
    have kept : (entries.filter (·.1 ≠ name)).find? (·.1 = other) =
        entries.find? (·.1 = other) := by
      rw [List.find?_filter]
      congr 1
      funext entry
      by_cases isOther : entry.1 = other <;> simp [isOther, apart]
    rw [kept]
    simp [Ne.symm apart]

theorem child?_put (node : FileTree) (name other : Text) (more : List Text) (tree : FileTree) :
    child? other (put node (name :: more) tree) =
      if other = name then some (put node more ((child? name tree).getD (.directory [])))
      else child? other tree := by
  have inner (entries : List (Text × FileTree)) :
      child? other (put node (name :: more) (.directory entries)) =
        if other = name then some (put node more ((child? name (.directory entries)).getD
          (.directory [])))
        else child? other (.directory entries) := by
    rw [put, child?, find?_replaced]
    split <;> rfl
  cases tree with
  | directory entries => exact inner entries
  | file content => exact inner []

section Writing

variable {tree : FileTree} {front : List Text} {name : Text} {workingDirectory path : Path}

/-- Putting a file into a directory, where no directory stands, changes nothing but its place. -/
theorem entryAt_put (content : ByteArray) (folder : tree.entryAt front = some .directory)
    (free : tree.entryAt (front ++ [name]) ≠ some .directory) (names : List Text) :
    (put (.file content) (front ++ [name]) tree).entryAt names =
      if names = front ++ [name] then some (.file content) else tree.entryAt names := by
  have isDirectory {first : Text} {more : List Text} {node : FileTree} :
      (put (.file content) (first :: more) node).entryAt [] = some .directory := by
    cases node <;> rfl
  induction front generalizing tree names with
  | nil =>
      cases names with
      | nil => rw [List.nil_append, isDirectory, folder, if_neg (by simp)]
      | cons other rest =>
          rw [List.nil_append, entryAt_cons, child?_put]
          by_cases same : other = name
          · subst same
            rw [if_pos rfl, Option.bind_some, put]
            cases rest with
            | nil => rw [if_pos rfl, entryAt, descend, Option.map_some, toEntry]
            | cons next more =>
                -- what stands at the place is a file, so nothing stands below it
                rw [List.nil_append, entryAt_cons] at free
                rw [entryAt_file, if_neg (by simp), entryAt_cons]
                cases child : child? other tree with
                | none => rfl
                | some node =>
                    cases node with
                    | file => rfl
                    | directory => simp [child, entryAt, descend, toEntry] at free
          · rw [if_neg same, if_neg (by simp [same]), entryAt_cons]
  | cons first more ih =>
      rw [entryAt_cons, Option.bind_eq_some_iff] at folder
      obtain ⟨inner, child, folder⟩ := folder
      rw [List.cons_append, entryAt_cons, child, Option.bind_some] at free
      cases names with
      | nil =>
          rw [List.cons_append, isDirectory]
          cases tree with
          | file => contradiction
          | directory => rfl
      | cons other rest =>
          rw [List.cons_append, entryAt_cons, child?_put, child, Option.getD_some, entryAt_cons]
          by_cases same : other = first
          · simp [same, child, ih folder free]
          · simp [same]

/-- A path that leads to a name in a directory, where no directory stands. -/
structure Writable (tree : FileTree) (workingDirectory path : Path) (front : List Text)
    (name : Text) : Prop where
  legal : Legal path
  parts : Path.parts (Path.join workingDirectory path) = front ++ [name]
  passes : Passes tree [] front
  folder : tree.entryAt (walk [] front).reverse = some .directory
  busy : ¬ Path.isIdle name
  named : name ≠ ['.', '.']
  short : (String.ofList name).utf8ByteSize ≤ longestName
  free : tree.entryAt ((walk [] front).reverse ++ [name]) ≠ some .directory

theorem Writable.place_eq (writable : Writable tree workingDirectory path front name) :
    place workingDirectory path = (walk [] front).reverse ++ [name] := by
  rw [place, writable.parts, walk_append, walk, if_neg writable.busy, if_neg writable.named, walk,
    List.reverse_cons]

theorem Writable.entryAt_writeFile (writable : Writable tree workingDirectory path front name)
    (content : ByteArray) (names : List Text) :
    (tree.writeFile workingDirectory path content).entryAt names =
      if names = place workingDirectory path then some (.file content)
      else tree.entryAt names := by
  rw [writeFile, writable.place_eq]
  exact entryAt_put content writable.folder writable.free names

theorem Passes.mono {after : FileTree} {names parts : List Text} (passes : Passes tree names parts)
    (directories : ∀ place, tree.entryAt place = some .directory →
      after.entryAt place = some .directory)
    (present : ∀ place, tree.entryAt place ≠ none → after.entryAt place ≠ none) :
    Passes after names parts := by
  induction parts generalizing names with
  | nil => trivial
  | cons part more ih =>
      obtain ⟨isDirectory, passes⟩ := passes
      refine ⟨directories _ isDirectory, ?_⟩
      by_cases idle : Path.isIdle part
      · rw [if_pos idle] at passes ⊢
        exact ih passes
      · rw [if_neg idle] at passes ⊢
        by_cases up : part = ['.', '.']
        · rw [if_pos up] at passes ⊢
          exact ih passes
        · rw [if_neg up] at passes ⊢
          exact ⟨passes.1, present _ passes.2.1, ih passes.2.2⟩

/-- A name in a directory that leads to no directory and fails for no other reason than that it is
missing. -/
theorem Way.writable_name {root : FileTree} {names : List Text} {above : List FileTree}
    {entries : List (Text × FileTree)} (way : Way root names above (.directory entries))
    (noDirectory : ∀ found, follow (.directory entries) above [name] = .ok found →
      found.toEntry ≠ .directory)
    (missing : ∀ error, follow (.directory entries) above [name] = .error error →
      error = .notFound) :
    ¬ Path.isIdle name ∧ name ≠ ['.', '.'] ∧ (String.ofList name).utf8ByteSize ≤ longestName ∧
      root.entryAt (names.reverse ++ [name]) ≠ some .directory := by
  simp only [follow] at noDirectory missing
  by_cases idle : Path.isIdle name
  · rw [if_pos idle] at noDirectory
    exact absurd rfl (noDirectory _ rfl)
  rw [if_neg idle] at noDirectory missing
  by_cases up : name = ['.', '.']
  · rw [if_pos up] at noDirectory
    cases way with
    | root => exact absurd rfl (noDirectory _ rfl)
    | @down _ _ parent _ _ way child =>
        cases parent with
        | file => contradiction
        | directory => exact absurd rfl (noDirectory _ rfl)
  rw [if_neg up] at noDirectory missing
  by_cases long : longestName < (String.ofList name).utf8ByteSize
  · rw [if_pos long] at missing
    cases missing _ rfl
  rw [if_neg long] at noDirectory
  refine ⟨idle, up, Nat.le_of_not_lt long, ?_⟩
  rw [← List.reverse_cons, way.entryAt_child]
  cases child : child? name (.directory entries) with
  | none => simp
  | some next =>
      rw [child] at noDirectory
      simpa using noDirectory next rfl

/-- A path at which nothing speaks against writing leads to a name in a directory. -/
theorem exists_writable
    (permitted : (tree.files workingDirectory).writeError? path = none) :
    ∃ front name, Writable tree workingDirectory path front name := by
  simp only [Files.writeError?] at permitted
  split at permitted
  · contradiction
  rename_i nonempty
  split at permitted
  · contradiction
  · contradiction
  rename_i inFolder
  split at permitted
  · contradiction
  rename_i named
  obtain ⟨front, idle, isIdle, folderParts, parts⟩ :=
    Files.exists_front workingDirectory (by simpa using named)
  obtain ⟨_, passes, _⟩ := entry_eq_ok_iff.mp inFolder
  rw [folderParts, passes_append] at passes
  obtain ⟨passes, folder, _⟩ := passes
  obtain ⟨others, last, way, goesOn⟩ := Way.root.follow_append passes
  have isDirectory := folder
  rw [way.entryAt] at isDirectory
  cases last with
  | file => simp [toEntry] at isDirectory
  | directory entries =>
      have noDirectory : ∀ found, node tree workingDirectory path = .ok found →
          found.toEntry ≠ .directory := by
        intro found there
        rw [files_entry, there, Except.map] at permitted
        intro same
        simp [same] at permitted
      have missing : ∀ error, node tree workingDirectory path = .error error →
          error = .notFound := by
        intro error there
        rw [files_entry, there, Except.map] at permitted
        cases error <;> simp_all
      have legal : Legal path := by
        refine legal_of_node tree workingDirectory (by simpa using nonempty) (fun zero => ?_)
          fun long => ?_
        · cases missing _ zero
        · cases missing _ long
      rw [node_of_legal legal, parts, goesOn] at noDirectory missing
      obtain ⟨busy, apart, short, free⟩ := way.writable_name noDirectory missing
      exact ⟨front, _, legal, parts, passes, folder, busy, apart, short, free⟩

theorem Writable.read_writeFile (writable : Writable tree workingDirectory path front name)
    (content : ByteArray) :
    ((tree.writeFile workingDirectory path content).files workingDirectory).read path =
      .ok content := by
  have entries := writable.entryAt_writeFile content
  have directories : ∀ names, tree.entryAt names = some .directory →
      (tree.writeFile workingDirectory path content).entryAt names = some .directory := by
    intro names isDirectory
    rw [entries, if_neg, isDirectory]
    rintro rfl
    exact writable.free (writable.place_eq ▸ isDirectory)
  have present : ∀ names, tree.entryAt names ≠ none →
      (tree.writeFile workingDirectory path content).entryAt names ≠ none := by
    intro names there
    rw [entries]
    split
    · simp
    · exact there
  have written : ((tree.writeFile workingDirectory path content).files workingDirectory).entry
      path = .ok (.file content) := by
    refine entry_eq_ok_iff.mpr ⟨writable.legal, ?_, by rw [entries, if_pos rfl]⟩
    rw [writable.parts, passes_append]
    refine ⟨writable.passes.mono directories present, directories _ writable.folder, ?_⟩
    rw [if_neg writable.busy, if_neg writable.named]
    refine ⟨writable.short, ?_, trivial⟩
    rw [entries, if_pos (by rw [writable.place_eq, List.reverse_cons])]
    simp
  rw [Files.read, written]

end Writing

end FileTree

end EnergyReport
