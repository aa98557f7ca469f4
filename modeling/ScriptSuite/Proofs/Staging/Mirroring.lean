import ScriptSuite.Proofs.FileSystem.Filling
import ScriptSuite.Proofs.FileSystem.Reordering
import ScriptSuite.Proofs.Staging.Layout

set_option autoImplicit false

namespace ScriptSuite.Staging

open CommandLine FileSystem FileSystem.Disk FileSystem.Place ScriptSuite.Path

theorem within_common (shorter left right : List Component) (within : shorter <+: left) (also : shorter <+: right) :
    shorter <+: commonPrefix left right := by
  induction shorter generalizing left right with
  | nil => exact List.nil_prefix
  | cons first rest step =>
      obtain ⟨left, rfl⟩ := within
      obtain ⟨right, rfl⟩ := also
      rw [List.cons_append, List.cons_append, commonPrefix, if_pos rfl, List.cons_prefix_cons]
      exact ⟨rfl, step _ _ (List.prefix_append _ _) (List.prefix_append _ _)⟩

-- Together with `base_within`: the common directory is the greatest lower bound.
theorem within_base (shorter : List Component) (directory : Path) (files : List Path)
    (within : shorter <+: directory.components)
    (others : ∀ file ∈ files, ∀ parent, file.parent? = some parent → shorter <+: parent.components) :
    shorter <+: baseOf directory files := by
  have fold : ∀ (directories : List Path) (base : List Component), shorter <+: base →
      (∀ other ∈ directories, shorter <+: other.components) →
      shorter <+: directories.foldl (fun base directory => commonPrefix base directory.components) base := by
    intro directories
    induction directories with
    | nil => exact fun base below _ => below
    | cons first rest step =>
        intro base below each
        exact step _ (within_common _ _ _ below (each first (List.mem_cons_self ..)))
          fun other inside => each other (List.mem_cons_of_mem _ inside)
  refine fold _ _ within fun parent member => ?_
  obtain ⟨file, listed, up⟩ := List.mem_filterMap.mp member
  exact others file listed parent up

theorem base_same (directory : Path) (files others : List Path) (same : ∀ file, file ∈ others ↔ file ∈ files) :
    baseOf directory others = baseOf directory files := by
  obtain ⟨filesWhole, filesWithin⟩ := base_within directory files
  obtain ⟨othersWhole, othersWithin⟩ := base_within directory others
  have left : baseOf directory others <+: baseOf directory files :=
    within_base _ directory files othersWhole fun file listed => othersWithin file ((same file).mpr listed)
  have right : baseOf directory files <+: baseOf directory others :=
    within_base _ directory others filesWhole fun file listed => filesWithin file ((same file).mp listed)
  exact left.eq_of_length_le right.length_le

def route (left right : List Component) : Nat × List Component :=
  let shared := commonPrefix left.dropLast right
  (left.dropLast.length - shared.length, right.drop shared.length)

theorem common_append (front left right : List Component) :
    commonPrefix (front ++ left) (front ++ right) = front ++ commonPrefix left right := by
  induction front with
  | nil => rfl
  | cons first rest step => rw [List.cons_append, List.cons_append, commonPrefix, if_pos rfl, step, List.cons_append]

theorem route_append (front left right : List Component) (proper : left ≠ []) :
    route (front ++ left) (front ++ right) = route left right := by
  rw [route, route, List.dropLast_append_of_ne_nil proper, common_append]
  simp only [List.length_append, List.drop_length_add_append, Nat.add_sub_add_left]

section

variable {disk made : Disk} {root : Path} {base seat : Place} {files : List Path}

theorem lies_components {file : Path} {relative : Place} (lies : Lies base file relative) :
    file.components = baseComponents base ++ relative.map .name := by
  rw [lies.spelled, path_of_components _ lies.named, List.map_append]
  rfl

theorem anchored_components (anchored : Anchored root) (path : Path) (names : Place)
    (shape : path.segments = root.segments ++ names) (named : ∀ name ∈ names, IsName name) :
    path.components = root.components ++ names.map .name := by
  obtain ⟨front, last, spelled, _⟩ := anchored
  rw [components, components, shape, spelled, List.cons_append, components_cons _ _ (by simp), components_cons _ _ (by simp),
    named_append, named_components names named]
  rfl

theorem copies_apart (anchored : Anchored root) (left right : Path) (leftLies : ∃ relative, Lies base left relative)
    (rightLies : ∃ relative, Lies base right relative)
    (same : copyPath root (baseComponents base) left = copyPath root (baseComponents base) right) : left = right := by
  obtain ⟨leftPlace, leftLies⟩ := leftLies
  obtain ⟨rightPlace, rightLies⟩ := rightLies
  obtain ⟨leftCopy, leftCopied, leftShape⟩ := copy_path_spelled anchored leftLies
  obtain ⟨rightCopy, rightCopied, rightShape⟩ := copy_path_spelled anchored rightLies
  rw [leftCopied, rightCopied] at same
  rw [Option.some.inj same, rightShape] at leftShape
  rw [leftLies.spelled, rightLies.spelled, List.append_cancel_left leftShape]

theorem copy_components (anchored : Anchored root) {file : Path} {relative : Place} (lies : Lies base file relative)
    (copy : Path) (copied : copyPath root (baseComponents base) file = some copy) :
    copy.components = root.components ++ relative.map .name := by
  obtain ⟨spelled, same, shape⟩ := copy_path_spelled anchored lies
  obtain rfl := Option.some.inj (copied.symm.trans same)
  exact anchored_components anchored copy relative shape fun name inside =>
    lies.named name (List.mem_append_right _ inside)

theorem copies_route (anchored : Anchored root) (left right leftCopy rightCopy : Path)
    (leftLies : ∃ relative, Lies base left relative) (rightLies : ∃ relative, Lies base right relative)
    (leftCopied : copyPath root (baseComponents base) left = some leftCopy)
    (rightCopied : copyPath root (baseComponents base) right = some rightCopy) :
    route leftCopy.components rightCopy.components = route left.components right.components := by
  obtain ⟨leftPlace, leftLies⟩ := leftLies
  obtain ⟨rightPlace, rightLies⟩ := rightLies
  have proper : leftPlace.map Component.name ≠ [] := mt List.map_eq_nil_iff.mp leftLies.proper
  rw [copy_components anchored leftLies leftCopy leftCopied, copy_components anchored rightLies rightCopy rightCopied,
    lies_components leftLies, lies_components rightLies, route_append _ _ _ proper, route_append _ _ _ proper]

theorem leaves_apart (left right : Place) (leftFile : disk.kindAt (base ++ left) = some .file)
    (rightFile : disk.kindAt (base ++ right) = some .file) (within : left <+: right) : left = right := by
  obtain ⟨below, rfl⟩ := within
  by_cases here : below = []
  · rw [here, List.append_nil]
  · rw [← List.append_assoc, file_is_leaf disk _ below leftFile here] at rightFile
    cases rightFile

structure Mirrored (disk : Disk) (seat base : Place) (files : List Path) (made : Disk) : Prop where
  copied : ∀ file ∈ files, ∀ relative, Lies base file relative →
    made.outsideAt (seat ++ relative) = disk.outsideAt (base ++ relative)
  above : ∀ file ∈ files, ∀ relative, Lies base file relative → ∀ front, front <+: relative → front ≠ relative →
    made.kindAt (seat ++ front) = some .directory
  nothing : ∀ place, place ≠ [] → made.kindAt (seat ++ place) ≠ none →
    ∃ file ∈ files, ∃ relative, Lies base file relative ∧ place <+: relative

end

section

variable {disk made : Disk} {root : Path} {directory : Place} {name : String} {base : Place} {done : List Path}

-- What stands in the workspace is the copy of a file, or a directory above one.
theorem mirrored_stands {seat place : Place} (mirrored : Mirrored disk seat base done made) (below : place ≠ [])
    (present : made.kindAt (seat ++ place) ≠ none) :
    (∃ file ∈ done, Lies base file place) ∨
      made.kindAt (seat ++ place) = some .directory ∧
        ∃ file ∈ done, ∃ relative, Lies base file relative ∧ place <+: relative ∧ place ≠ relative := by
  obtain ⟨file, listed, relative, lies, within⟩ := mirrored.nothing place below present
  by_cases whole : place = relative
  · exact .inl ⟨file, listed, whole ▸ lies⟩
  · exact .inr ⟨mirrored.above file listed relative lies place within whole, file, listed, relative, lies, within, whole⟩

theorem fresh_mirrored (site : disk.Site root directory name) (base : Place) :
    Mirrored disk (directory ++ [name]) base [] (disk.put (directory ++ [name]) (.directory [])) := by
  refine ⟨nofun, nofun, fun place below present => ?_⟩
  rw [kindAt, furnished_at site, Node.bare_directory place below] at present
  exact absurd rfl present

theorem copied_file {file : Path} {relative : Place} {content : List UInt8} {mode : Nat}
    (site : disk.Site root directory name) (furnished : disk.Furnished (directory ++ [name]) made)
    (lies : Lies base file relative) (held : disk.at? (base ++ relative) = some (.file content mode)) :
    made.node file = .ok (.file content mode) := by
  have keeps := furnished_keeps site furnished
  have located := keeps_locate keeps _ (locate_place (base ++ relative) _ lies.named held (by simp [Node.kind]))
  have kept := keeps.other _ _ held (by simp [Node.kind])
  simp [node, lies.spelled, located, kept, bind, Except.bind]

theorem copied_mirrored {seat : Place} {grown : Disk} {file : Path} {names : Place} {last : String}
    {content : List UInt8} {mode : Nat} (mirrored : Mirrored disk seat base done made)
    (leaves : ∀ other ∈ done, ∀ place, Lies base other place → disk.kindAt (base ++ place) = some .file)
    (lies : Lies base file (names ++ [last])) (held : disk.at? (base ++ (names ++ [last])) = some (.file content mode))
    (shows : ∀ place, grown.outsideAt (seat ++ place) = if place = names ++ [last] then some (.file content mode)
      else if place <+: names then some (.directory []) else made.outsideAt (seat ++ place)) :
    Mirrored disk seat base (done ++ [file]) grown := by
  have isFile : disk.kindAt (base ++ (names ++ [last])) = some .file := (kind_at_file disk _).mpr ⟨_, _, held⟩
  have apart : ∀ place, disk.kindAt (base ++ place) = some .file → place ≠ names ++ [last] → ¬place <+: names :=
    fun place leaf other within =>
      other (leaves_apart place _ leaf isFile (within.trans (List.prefix_append _ _)))
  have directory : ∀ front, front ≠ names ++ [last] → (¬front <+: names → made.kindAt (seat ++ front) = some .directory) →
      grown.kindAt (seat ++ front) = some .directory := by
    intro front proper stood
    rw [kind_at_outside, shows, if_neg proper]
    split
    · rfl
    · rename_i outside
      rw [← kind_at_outside]
      exact stood outside
  refine ⟨fun other listed place otherLies => ?_, fun other listed place otherLies front inside proper => ?_,
    fun place below present => ?_⟩
  · rw [shows]
    by_cases here : place = names ++ [last]
    · rw [if_pos here, here]
      exact ((outside_file _ content mode).mpr held).symm
    · rcases List.mem_append.mp listed with old | new
      · rw [if_neg here, if_neg (apart place (leaves other old place otherLies) here)]
        exact mirrored.copied other old place otherLies
      · obtain rfl := List.mem_singleton.mp new
        exact absurd (lies_unique base other _ _ otherLies lies) here
  · rcases List.mem_append.mp listed with old | new
    · refine directory front ?_ fun _ => mirrored.above other old place otherLies front inside proper
      rintro rfl
      exact proper (leaves_apart _ _ isFile (leaves other old place otherLies) inside)
    · obtain rfl := List.mem_singleton.mp new
      obtain rfl := lies_unique base other _ _ otherLies lies
      exact directory front proper fun outside => absurd ((List.prefix_concat_iff.mp inside).resolve_left proper) outside
  · rw [kind_at_outside, shows] at present
    split at present
    · rename_i here
      exact ⟨file, List.mem_append_right _ (List.mem_singleton_self _), _, lies, here ▸ List.prefix_rfl⟩
    · split at present
      · rename_i within
        exact ⟨file, List.mem_append_right _ (List.mem_singleton_self _), _, lies, within.trans (List.prefix_append _ _)⟩
      · rw [← kind_at_outside] at present
        obtain ⟨other, listed, further⟩ := mirrored.nothing place below present
        exact ⟨other, List.mem_append_left _ listed, further⟩

theorem mirrored_unfiled {seat place front : Place} (mirrored : Mirrored disk seat base done made)
    (top : made.kindAt seat = some .directory)
    (leaves : ∀ other ∈ done, ∀ place, Lies base other place → disk.kindAt (base ++ place) = some .file)
    (isFile : disk.kindAt (base ++ place) = some .file) (within : front <+: place) (proper : front ≠ place) :
    made.kindAt (seat ++ front) ≠ some .file := by
  intro found
  by_cases here : front = []
  · rw [here, List.append_nil, top] at found
    cases found
  · rcases mirrored_stands mirrored here (by rw [found]; exact Option.some_ne_none _) with copied | ⟨isDirectory, -⟩
    · obtain ⟨other, listed, otherLies⟩ := copied
      exact proper (leaves_apart front _ (leaves other listed front otherLies) isFile within)
    · rw [isDirectory] at found
      cases found

theorem mirrored_undirected {seat place : Place} (mirrored : Mirrored disk seat base done made)
    (leaves : ∀ other ∈ done, ∀ place, Lies base other place → disk.kindAt (base ++ place) = some .file)
    (below : place ≠ []) (isFile : disk.kindAt (base ++ place) = some .file) :
    made.kindAt (seat ++ place) ≠ some .directory := by
  intro found
  rcases mirrored_stands mirrored below (by rw [found]; exact Option.some_ne_none _) with copied | ⟨-, above⟩
  · obtain ⟨other, listed, otherLies⟩ := copied
    rw [kind_at_outside, mirrored.copied other listed _ otherLies, ← kind_at_outside, isFile] at found
    cases found
  · obtain ⟨other, listed, further, otherLies, inside, proper⟩ := above
    exact proper (leaves_apart _ _ isFile (leaves other listed further otherLies) inside)

theorem copy_into_mirrors (site : disk.Site root directory name)
    (furnished : disk.Furnished (directory ++ [name]) made) (mirrored : Mirrored disk (directory ++ [name]) base done made)
    (leaves : ∀ other ∈ done, ∀ place, Lies base other place → disk.kindAt (base ++ place) = some .file)
    (file : Path) (relative : Place) (lies : Lies base file relative)
    (isFile : disk.kindAt (base ++ relative) = some .file) :
    ∃ grown target, copyInto made root (baseComponents base) file = .ok (grown, target) ∧
      copyPath root (baseComponents base) file = some target ∧ disk.Furnished (directory ++ [name]) grown ∧
      Mirrored disk (directory ++ [name]) base (done ++ [file]) grown := by
  obtain ⟨content, mode, held⟩ := (kind_at_file disk _).mp isFile
  obtain ⟨copy, spelled, shape⟩ := copy_path_spelled site.anchored lies
  have named : ∀ other ∈ relative, IsName other := fun other inside => lies.named other (List.mem_append_right _ inside)
  have joined : root.join (ofComponents (relative.map .name)) = copy := by
    rw [copyPath, lies_below lies] at spelled
    exact Option.some.inj spelled
  obtain ⟨names, last, rfl⟩ : ∃ names last, relative = names ++ [last] :=
    ⟨_, _, (List.dropLast_append_getLast lies.proper).symm⟩
  obtain ⟨parent, up, parentShape⟩ := anchored_parent site.anchored copy names last shape named
  have unfiled : ∀ front, front <+: names → made.kindAt (directory ++ [name] ++ front) ≠ some .file := by
    intro front within
    refine mirrored_unfiled mirrored (furnished_stands site furnished) leaves isFile (within.trans (List.prefix_append _ _)) ?_
    rintro rfl
    exact absurd within.length_le (by simp)
  have undirected := mirrored_undirected mirrored leaves lies.proper isFile
  obtain ⟨middle, created, middleFurnished, middleShows⟩ := create_directories_inside site furnished parent names
    parentShape (fun other inside => named other (List.mem_append_left _ inside)) unfiled
  have stands : middle.kindAt (directory ++ [name] ++ names) = some .directory := by
    rw [kind_at_outside, middleShows, if_pos List.prefix_rfl]
    rfl
  have free : middle.kindAt (directory ++ [name] ++ (names ++ [last])) ≠ some .directory := by
    rw [kind_at_outside, middleShows, if_neg fun within => absurd within.length_le (by simp), ← kind_at_outside]
    exact undirected
  obtain ⟨grown, copied, grownFurnished, grownShows⟩ := copy_file_inside site middleFurnished file copy names last shape
    named stands free content mode (copied_file site middleFurnished lies held)
  refine ⟨grown, copy, ?_, spelled, grownFurnished, ?_⟩
  · rw [copyInto, lies_below lies]
    dsimp only
    rw [joined, up, Option.getD_some, created]
    simp only [bind, Except.bind, Except.mapError, copied]
  · exact copied_mirrored mirrored leaves lies held fun place => by rw [grownShows, middleShows]

theorem copy_all_mirrors (site : disk.Site root directory name) (files : List Path)
    (furnished : disk.Furnished (directory ++ [name]) made) (mirrored : Mirrored disk (directory ++ [name]) base done made)
    (leaves : ∀ file ∈ done ++ files, ∀ place, Lies base file place → disk.kindAt (base ++ place) = some .file)
    (lying : ∀ file ∈ files, ∃ relative, Lies base file relative) :
    ∃ grown, copyAll made root (baseComponents base) files = .ok grown ∧
      disk.Furnished (directory ++ [name]) grown ∧ Mirrored disk (directory ++ [name]) base (done ++ files) grown := by
  induction files generalizing made done with
  | nil => exact ⟨made, rfl, furnished, by rwa [List.append_nil]⟩
  | cons file rest step =>
      obtain ⟨relative, lies⟩ := lying file (List.mem_cons_self ..)
      obtain ⟨middle, target, copied, _, middleFurnished, middleMirrored⟩ := copy_into_mirrors site furnished mirrored
        (fun other listed => leaves other (List.mem_append_left _ listed)) file relative lies
        (leaves file (by simp) relative lies)
      rw [List.append_cons done file rest] at leaves ⊢
      obtain ⟨grown, others, further⟩ := step middleFurnished middleMirrored leaves fun other listed =>
        lying other (List.mem_cons_of_mem _ listed)
      refine ⟨grown, ?_, further⟩
      rw [copyAll, List.foldlM_cons, copied]
      exact others

theorem placed_leaf {file : Path} (placed : Placed disk file) (relative : Place) (lies : Lies base file relative) :
    disk.kindAt (base ++ relative) = some .file := by
  obtain ⟨place, spelled, named, isFile⟩ := placed
  rwa [← path_of_injective _ _ named lies.named (spelled.symm.trans lies.spelled)]

theorem placed_canonical {file : Path} (placed : Placed disk file) : disk.canonicalize file = .ok file := by
  obtain ⟨place, rfl, named, isFile⟩ := placed
  obtain ⟨content, mode, held⟩ := (kind_at_file disk place).mp isFile
  rw [canonicalize, locate_place place _ named held (by simp [Node.kind])]
  rfl

theorem placed_kept {kept : Disk} (keeps : Keeps disk kept) {file : Path} (placed : Placed disk file) :
    Placed kept file := by
  obtain ⟨place, spelled, named, isFile⟩ := placed
  exact ⟨place, spelled, named, keeps_kind keeps place _ isFile⟩

theorem fill_mirrors (site : disk.Site root directory name) (spelled entry above : Path) (files : List Path)
    (present : disk.canonicalize spelled = .ok entry) (placed : ∀ file ∈ entry :: files, Placed disk file)
    (up : entry.parent? = some above) (common : baseOf above files = baseComponents base)
    (lying : ∀ file ∈ entry :: files, ∃ relative, Lies base file relative) :
    ∃ grown target, fill (disk.put (directory ++ [name]) (.directory [])) root spelled files = .ok (grown, ⟨root, target⟩) ∧
      copyPath root (baseComponents base) entry = some target ∧ disk.Furnished (directory ++ [name]) grown ∧
      Mirrored disk (directory ++ [name]) base (entry :: files) grown := by
  have fresh := furnished_fresh disk (directory ++ [name])
  have leaves : ∀ file ∈ entry :: files, ∀ place, Lies base file place → disk.kindAt (base ++ place) = some .file :=
    fun file listed => placed_leaf (placed file listed)
  obtain ⟨relative, lies⟩ := lying entry (List.mem_cons_self ..)
  obtain ⟨middle, target, copied, image, middleFurnished, middleMirrored⟩ := copy_into_mirrors site fresh
    (fresh_mirrored site base) nofun entry relative lies (leaves entry (List.mem_cons_self ..) relative lies)
  obtain ⟨grown, others, further⟩ := copy_all_mirrors site files middleFurnished middleMirrored leaves fun file listed =>
    lying file (List.mem_cons_of_mem _ listed)
  refine ⟨grown, target, ?_, image, further⟩
  rw [fill, keeps_canonicalize (furnished_keeps site fresh) spelled entry present]
  simp only [bind, Except.bind, Except.mapError]
  rw [up]
  dsimp only
  rw [common]
  simp only [baseComponents, List.isEmpty_cons, Bool.false_eq_true, if_false]
  rw [baseComponents] at copied others
  rw [copied]
  dsimp only
  rw [others]

end

theorem stage_prepared (disk : Disk) (stagingRoot : Path) :
    (∃ left fault, ∀ naming entry files, stage naming disk stagingRoot entry files = (left, .error (.prepare stagingRoot fault))) ∨
      ∃ (ready : Disk) (parent : Path) (directory : Place), Keeps disk ready ∧ ∀ naming : Naming, naming.Lawful →
        ∃ name, ready.Site (parent.join ⟨name⟩) directory name ∧ ∀ entry files filled workspace,
          fill (ready.put (directory ++ [name]) (.directory [])) (parent.join ⟨name⟩) entry files = .ok (filled, workspace) →
          stage naming disk stagingRoot entry files = (filled, .ok workspace) := by
  cases prepared : disk.createDirectories stagingRoot with
  | error fault => exact .inl ⟨_, fault, fun naming entry files => by rw [stage, prepared]⟩
  | ok ready =>
      have keeps : Keeps disk ready := by
        rw [create_directories_after stagingRoot prepared]
        exact after_directories_keeps disk stagingRoot
      rcases create_temporary_cases ready stagingRoot with ⟨fault, fails⟩ | ⟨directory, entries, located, held, makes⟩
      · refine .inl ⟨ready, fault, fun naming entry files => ?_⟩
        rw [stage, prepared]
        dsimp only
        rw [fails]
      · refine .inr ⟨ready, ready.absolute stagingRoot, directory, keeps, fun naming lawful => ⟨naming "casper-" entries,
          new_site ready stagingRoot directory entries _ located held (lawful.free _ _)
            (lawful.named "casper-" _ (by decide) (by decide)), fun entry files filled workspace full => ?_⟩⟩
        rw [stage, prepared]
        dsimp only
        rw [makes]
        dsimp only
        rw [full]

section

variable {disk : Disk}

theorem base_deepest (entry : Path) (files : List Path) (placed : ∀ file ∈ entry :: files, Placed disk file) :
    ∃ above base, entry.parent? = some above ∧ baseOf above files = baseComponents base ∧
      (∀ file ∈ entry :: files, ∃ relative, Lies base file relative) ∧
      ∀ other, (∀ file ∈ entry :: files, ∃ relative, Lies other file relative) → other <+: base := by
  have proper := fun file listed => placed_proper disk file (placed file listed)
  obtain ⟨front, name, spelled, named⟩ := proper entry (List.mem_cons_self ..)
  have up : entry.parent? = some (pathOf front) := spelled ▸ path_of_parent front name named
  have below : ∀ other, (∀ file ∈ entry :: files, ∃ relative, Lies other file relative) →
      baseComponents other <+: baseOf (pathOf front) files := by
    intro other lying
    have parents : ∀ file ∈ entry :: files, ∀ parent, file.parent? = some parent →
        baseComponents other <+: parent.components := by
      intro file listed parent found
      obtain ⟨relative, lies⟩ := lying file listed
      obtain ⟨before, last, rfl⟩ : ∃ before last, relative = before ++ [last] :=
        ⟨_, _, (List.dropLast_append_getLast lies.proper).symm⟩
      obtain ⟨same, _, placeNamed⟩ := lies
      rw [← List.append_assoc] at same placeNamed
      rw [same, path_of_parent _ last placeNamed] at found
      rw [← Option.some.inj found, path_of_components _ fun name inside => placeNamed name (List.mem_append_left _ inside),
        List.map_append]
      exact ⟨before.map .name, rfl⟩
    exact within_base _ _ files (parents entry (List.mem_cons_self ..) _ up) fun file listed =>
      parents file (List.mem_cons_of_mem _ listed)
  have top : ∀ file ∈ entry :: files, ∃ relative, Lies [] file relative := by
    intro file listed
    obtain ⟨place, last, same, placeNamed⟩ := proper file listed
    exact ⟨place ++ [last], same, by simp, placeNamed⟩
  have nonempty : baseOf (pathOf front) files ≠ [] := fun none => by
    have within := below [] top
    rw [none] at within
    exact absurd (List.prefix_nil.mp within) (List.cons_ne_nil _ _)
  obtain ⟨base, common, lying⟩ := base_above entry (pathOf front) files up nonempty proper
  refine ⟨pathOf front, base, up, common, lying, fun other otherLying => ?_⟩
  have within := below other otherLying
  rw [common] at within
  exact (List.prefix_map_iff_of_injective component_name_injective).mp (List.cons_prefix_cons.mp within).2

theorem placed_at {file : Path} (placed : Placed disk file) {base relative : Place} (lies : Lies base file relative)
    {kept : Disk} (keeps : Keeps disk kept) : kept.outsideAt (base ++ relative) = disk.outsideAt (base ++ relative) := by
  obtain ⟨content, mode, held⟩ := (kind_at_file disk _).mp (placed_leaf placed relative lies)
  rw [(outside_file _ content mode).mpr held, outside_file]
  exact keeps.other _ _ held (by simp [Node.kind])

variable {seat otherSeat base : Place} {files others : List Path} {made other : Disk}

theorem mirrored_same (mirrored : Mirrored disk seat base files made) (also : Mirrored disk otherSeat base others other)
    (same : ∀ file, file ∈ others ↔ file ∈ files) (stands : made.kindAt seat = some .directory)
    (otherStands : other.kindAt otherSeat = some .directory) (place : Place) :
    other.outsideAt (otherSeat ++ place) = made.outsideAt (seat ++ place) := by
  by_cases top : place = []
  · rw [top, List.append_nil, List.append_nil, outside_directory seat stands, outside_directory otherSeat otherStands]
  · by_cases reached : ∃ file ∈ files, ∃ relative, Lies base file relative ∧ place <+: relative
    · obtain ⟨file, listed, relative, lies, within⟩ := reached
      have otherListed := (same file).mpr listed
      by_cases whole : place = relative
      · rw [whole, mirrored.copied file listed relative lies, also.copied file otherListed relative lies]
      · rw [outside_directory _ (mirrored.above file listed relative lies place within whole),
          outside_directory _ (also.above file otherListed relative lies place within whole)]
    · have absent : ∀ {seat : Place} {listed : List Path} {shown : Disk}, Mirrored disk seat base listed shown →
          (∀ file ∈ listed, file ∈ files) → shown.outsideAt (seat ++ place) = none := by
        intro seat listed shown holds inside
        by_contra present
        refine reached ?_
        obtain ⟨file, member, further⟩ := holds.nothing place top (by
          rw [kind_at_outside]
          exact fun none => present (Option.map_eq_none_iff.mp none))
        exact ⟨file, inside file member, further⟩
      rw [absent mirrored fun _ => id, absent also fun file => (same file).mp]

/-- A workspace at its seat on the disk: the staged files where they lie below the common directory, the directories
above them and nothing else. -/
structure Mirrors (disk filled : Disk) (workspace : Workspace) (seat base : Place) (entry : Path) (files : List Path) :
    Prop where
  located : filled.locate workspace.root = .ok seat
  copied : ∀ place content mode, filled.at? (seat ++ place) = some (.file content mode) ↔
    (∃ file ∈ entry :: files, Lies base file place) ∧ disk.at? (base ++ place) = some (.file content mode)
  above : ∀ place, filled.kindAt (seat ++ place) = some .directory ↔
    ∃ file ∈ entry :: files, ∃ relative, Lies base file relative ∧ place <+: relative ∧ place ≠ relative
  plain : ∀ place, filled.kindAt (seat ++ place) ≠ some .link
  entered : copyPath workspace.root (baseComponents base) entry = some workspace.entry
  copies : ∀ file ∈ entry :: files, ∀ relative, Lies base file relative →
    ∃ copy, copyPath workspace.root (baseComponents base) file = some copy ∧ filled.locate copy = .ok (seat ++ relative)
  routes : ∀ left ∈ entry :: files, ∀ right ∈ entry :: files, ∀ leftCopy rightCopy,
    copyPath workspace.root (baseComponents base) left = some leftCopy →
    copyPath workspace.root (baseComponents base) right = some rightCopy →
    route leftCopy.components rightCopy.components = route left.components right.components

theorem mirrored_mirrors {ready filled : Disk} {root entry target : Path} {directory : Place} {name : String}
    (site : ready.Site root directory name) (keeps : Keeps disk ready)
    (placed : ∀ file ∈ entry :: files, Placed disk file)
    (lying : ∀ file ∈ entry :: files, ∃ relative, Lies base file relative)
    (spelled : copyPath root (baseComponents base) entry = some target)
    (furnished : ready.Furnished (directory ++ [name]) filled)
    (mirrored : Mirrored ready (directory ++ [name]) base (entry :: files) filled) :
    Mirrors disk filled ⟨root, target⟩ (directory ++ [name]) base entry files := by
  have copied : ∀ file ∈ entry :: files, ∀ relative, Lies base file relative →
      filled.outsideAt (directory ++ [name] ++ relative) = disk.outsideAt (base ++ relative) :=
    fun file listed relative lies => (mirrored.copied file listed relative lies).trans
      (placed_at (placed file listed) lies keeps)
  have leaf : ∀ file ∈ entry :: files, ∀ relative, Lies base file relative →
      filled.kindAt (directory ++ [name] ++ relative) = some .file := by
    intro file listed relative lies
    rw [kind_at_outside, copied file listed relative lies, ← kind_at_outside]
    exact placed_leaf (placed file listed) relative lies
  have stands := furnished_stands site furnished
  refine ⟨furnished_located site furnished, fun place content mode => ⟨fun held => ?_, ?_⟩,
    fun place => ⟨fun isDirectory => ?_, ?_⟩, furnished_plain site furnished, spelled, fun file listed relative lies => ?_,
    fun left leftListed right rightListed leftCopy rightCopy => copies_route site.anchored left right leftCopy rightCopy
      (lying left leftListed) (lying right rightListed)⟩
  · have isFile : filled.kindAt (directory ++ [name] ++ place) = some .file := (kind_at_file _ _).mpr ⟨content, mode, held⟩
    have below : place ≠ [] := by
      rintro rfl
      rw [List.append_nil, stands] at isFile
      cases isFile
    rcases mirrored_stands mirrored below (by rw [isFile]; exact Option.some_ne_none _) with copy | ⟨isDirectory, -⟩
    · obtain ⟨file, listed, lies⟩ := copy
      refine ⟨⟨file, listed, lies⟩, ?_⟩
      rw [← outside_file, ← copied file listed place lies, outside_file]
      exact held
    · rw [isDirectory] at isFile
      cases isFile
  · rintro ⟨⟨file, listed, lies⟩, held⟩
    rw [← outside_file, copied file listed place lies, outside_file]
    exact held
  · by_cases top : place = []
    · obtain ⟨relative, lies⟩ := lying entry (List.mem_cons_self ..)
      exact ⟨entry, List.mem_cons_self .., relative, lies, top ▸ List.nil_prefix, top ▸ lies.proper.symm⟩
    · rcases mirrored_stands mirrored top (by rw [isDirectory]; exact Option.some_ne_none _) with copy | ⟨-, above⟩
      · obtain ⟨file, listed, lies⟩ := copy
        rw [leaf file listed place lies] at isDirectory
        cases isDirectory
      · exact above
  · rintro ⟨file, listed, relative, lies, within, proper⟩
    exact mirrored.above file listed relative lies place within proper
  · obtain ⟨copy, copySpelled, shape⟩ := copy_path_spelled site.anchored lies
    obtain ⟨content, mode, held⟩ := (kind_at_file _ _).mp (leaf file listed relative lies)
    exact ⟨copy, copySpelled, locate_inside site furnished copy relative _ shape
      (fun other inside => lies.named other (List.mem_append_right _ inside)) held⟩

/-- One workspace under two names: what stands in it and what stands beside it is the same. -/
structure SameButName (disk other : Disk) (workspace again : Workspace) (parent : Path) (directory : Place)
    (name otherName : String) : Prop where
  spelled : workspace.root = parent.join ⟨name⟩ ∧ again.root = parent.join ⟨otherName⟩
  located : disk.locate workspace.root = .ok (directory ++ [name]) ∧ other.locate again.root = .ok (directory ++ [otherName])
  entered : ∃ relative, workspace.entry = workspace.root.join relative ∧ again.entry = again.root.join relative
  within : ∀ place, other.outsideAt (directory ++ [otherName] ++ place) = disk.outsideAt (directory ++ [name] ++ place)
  beside : ∀ place, ¬directory ++ [name] <+: place → ¬directory ++ [otherName] <+: place →
    other.outsideAt place = disk.outsideAt place

theorem mirrored_renamed {ready filled refilled : Disk} {parent entry target otherTarget : Path} {directory : Place}
    {name otherName : String} (site : ready.Site (parent.join ⟨name⟩) directory name)
    (otherSite : ready.Site (parent.join ⟨otherName⟩) directory otherName)
    (same : ∀ file, file ∈ others ↔ file ∈ files)
    (image : copyPath (parent.join ⟨name⟩) (baseComponents base) entry = some target)
    (otherImage : copyPath (parent.join ⟨otherName⟩) (baseComponents base) entry = some otherTarget)
    (furnished : ready.Furnished (directory ++ [name]) filled)
    (refurnished : ready.Furnished (directory ++ [otherName]) refilled)
    (mirrored : Mirrored ready (directory ++ [name]) base files filled)
    (also : Mirrored ready (directory ++ [otherName]) base others refilled) :
    SameButName filled refilled ⟨parent.join ⟨name⟩, target⟩ ⟨parent.join ⟨otherName⟩, otherTarget⟩ parent directory name
      otherName := by
  refine ⟨⟨rfl, rfl⟩, ⟨furnished_located site furnished, furnished_located otherSite refurnished⟩, ?_,
    mirrored_same mirrored also same (furnished_stands site furnished) (furnished_stands otherSite refurnished),
    fun place outside otherOutside => ?_⟩
  · obtain ⟨relative, below, joined⟩ := Option.map_eq_some_iff.mp image
    obtain ⟨otherRelative, otherBelow, otherJoined⟩ := Option.map_eq_some_iff.mp otherImage
    obtain rfl := Option.some.inj (otherBelow.symm.trans below)
    exact ⟨_, joined.symm, otherJoined.symm⟩
  · obtain ⟨inner, rfl, _⟩ := furnished
    obtain ⟨otherInner, rfl, _⟩ := refurnished
    rw [outside_put_elsewhere ready _ _ place outside, outside_put_elsewhere ready _ _ place otherOutside]

/-- Staging files under their own paths: nothing but the place for the workspace can fail, the workspace mirrors the
files below the deepest directory that contains them, and neither the order of the dependencies nor the name of the
workspace matters. -/
theorem staging_mirrors (naming : Naming) (lawful : naming.Lawful) (disk : Disk) (stagingRoot entry : Path)
    (files : List Path) (placed : ∀ file ∈ entry :: files, Placed disk file) :
    ∃ above base, entry.parent? = some above ∧ baseOf above files = baseComponents base ∧
      (∀ file ∈ entry :: files, ∃ relative, Lies base file relative) ∧
      (∀ other, (∀ file ∈ entry :: files, ∃ relative, Lies other file relative) → other <+: base) ∧
      (∀ root, Anchored root → ∀ left ∈ entry :: files, ∀ right ∈ entry :: files,
        copyPath root (baseComponents base) left = copyPath root (baseComponents base) right → left = right) ∧
      (∀ error, (stage naming disk stagingRoot entry files).2 = .error error → ∃ fault, error = .prepare stagingRoot fault) ∧
      (∀ workspace, (stage naming disk stagingRoot entry files).2 = .ok workspace →
        ∃ seat, Mirrors disk (stage naming disk stagingRoot entry files).1 workspace seat base entry files) ∧
      ∀ (others : List Path) (other : Naming), files.Perm others → other.Lawful →
        baseOf above others = baseOf above files ∧
        (∀ error, (stage naming disk stagingRoot entry files).2 = .error error →
          stage other disk stagingRoot entry others = stage naming disk stagingRoot entry files) ∧
        ∀ workspace, (stage naming disk stagingRoot entry files).2 = .ok workspace →
          ∃ again parent directory name otherName, (stage other disk stagingRoot entry others).2 = .ok again ∧
            SameButName (stage naming disk stagingRoot entry files).1 (stage other disk stagingRoot entry others).1
              workspace again parent directory name otherName := by
  obtain ⟨above, base, up, common, lying, deepest⟩ := base_deepest entry files placed
  refine ⟨above, base, up, common, lying, deepest, fun root anchored left leftListed right rightListed =>
    copies_apart anchored left right (lying left leftListed) (lying right rightListed), ?_⟩
  have sameBase := fun others (reordered : files.Perm others) =>
    base_same above files others fun file => reordered.symm.mem_iff
  rcases stage_prepared disk stagingRoot with ⟨left, fault, fails⟩ | ⟨ready, parent, directory, keeps, stages⟩
  · rw [fails]
    refine ⟨fun error same => ⟨fault, (Except.error.inj same).symm⟩, nofun, fun others other reordered _ =>
      ⟨sameBase others reordered, fun _ _ => fails other entry others, nofun⟩⟩
  · have whole := fun file listed => placed_kept keeps (placed file listed)
    have present := placed_canonical (whole entry (List.mem_cons_self ..))
    obtain ⟨name, site, makes⟩ := stages naming lawful
    obtain ⟨filled, target, fills, image, furnished, mirrored⟩ := fill_mirrors site entry entry above files present whole up
      common lying
    rw [makes entry files filled _ fills]
    refine ⟨nofun, fun workspace same => ?_, fun others other reordered otherLawful =>
      ⟨sameBase others reordered, nofun, fun workspace same => ?_⟩⟩
    · obtain rfl := Except.ok.inj same
      exact ⟨_, mirrored_mirrors site keeps placed lying image furnished mirrored⟩
    · obtain rfl := Except.ok.inj same
      have listed : ∀ file, file ∈ entry :: others ↔ file ∈ entry :: files := fun file => (reordered.cons entry).symm.mem_iff
      obtain ⟨otherName, otherSite, remakes⟩ := stages other otherLawful
      obtain ⟨refilled, otherTarget, refills, otherImage, refurnished, also⟩ := fill_mirrors otherSite entry entry above others
        present (fun file member => whole file ((listed file).mp member)) up ((sameBase others reordered).trans common)
        fun file member => lying file ((listed file).mp member)
      rw [remakes entry others refilled _ refills]
      exact ⟨_, parent, directory, name, otherName, rfl,
        mirrored_renamed site otherSite listed image otherImage furnished refurnished mirrored also⟩

-- Files that stand where they are said to be can be staged, or the place for a workspace cannot be made at all.
theorem stage_uniform (stagingRoot spelled entry : Path) (present : disk.canonicalize spelled = .ok entry)
    (placed : ∀ file ∈ entry :: files, Placed disk file) :
    (∃ left error, ∀ naming, stage naming disk stagingRoot spelled files = (left, .error error)) ∨
      ∀ naming : Naming, naming.Lawful →
        ∃ filled workspace, stage naming disk stagingRoot spelled files = (filled, .ok workspace) := by
  rcases stage_prepared disk stagingRoot with ⟨left, fault, fails⟩ | ⟨ready, parent, directory, keeps, stages⟩
  · exact .inl ⟨left, _, fun naming => fails naming spelled files⟩
  · refine .inr fun naming lawful => ?_
    obtain ⟨above, base, up, common, lying, -⟩ := base_deepest entry files placed
    obtain ⟨name, site, makes⟩ := stages naming lawful
    obtain ⟨filled, target, fills, -⟩ := fill_mirrors site spelled entry above files
      (keeps_canonicalize keeps spelled entry present) (fun file listed => placed_kept keeps (placed file listed)) up common
      lying
    exact ⟨filled, _, makes spelled files filled _ fills⟩

end

def linkedDisk : Disk where
  entries := [("suite", .directory [("tests", .directory [("login.js", .file [1] 420)]),
    ("lib", .directory [("page.js", .file [2] 420)])]), ("shortcut", .link "/suite")]
  workingDirectory := []

-- The workspace is made below a link.
theorem linked_files_mirrored :
    (∀ file ∈ [⟨"/suite/tests/login.js"⟩, ⟨"/suite/lib/page.js"⟩], Placed linkedDisk file) ∧
      (stage numbered linkedDisk ⟨"/shortcut/staging"⟩ ⟨"/suite/tests/login.js"⟩ [⟨"/suite/lib/page.js"⟩]).2 =
        .ok ⟨⟨"/shortcut/staging/casper-000000"⟩, ⟨"/shortcut/staging/casper-000000/tests/login.js"⟩⟩ ∧
      ∃ seat base, Mirrors linkedDisk
        (stage numbered linkedDisk ⟨"/shortcut/staging"⟩ ⟨"/suite/tests/login.js"⟩ [⟨"/suite/lib/page.js"⟩]).1
        ⟨⟨"/shortcut/staging/casper-000000"⟩, ⟨"/shortcut/staging/casper-000000/tests/login.js"⟩⟩ seat base
        ⟨"/suite/tests/login.js"⟩ [⟨"/suite/lib/page.js"⟩] := by
  have placed : ∀ file ∈ [⟨"/suite/tests/login.js"⟩, ⟨"/suite/lib/page.js"⟩], Placed linkedDisk file := by
    intro file listed
    rcases List.mem_cons.mp listed with rfl | listed
    · exact ⟨["suite", "tests", "login.js"], by decide, by decide, by decide⟩
    · obtain rfl := List.mem_singleton.mp listed
      exact ⟨["suite", "lib", "page.js"], by decide, by decide, by decide⟩
  have staged : (stage numbered linkedDisk ⟨"/shortcut/staging"⟩ ⟨"/suite/tests/login.js"⟩ [⟨"/suite/lib/page.js"⟩]).2 =
      .ok ⟨⟨"/shortcut/staging/casper-000000"⟩, ⟨"/shortcut/staging/casper-000000/tests/login.js"⟩⟩ := by decide +kernel
  obtain ⟨_, base, _, _, _, _, _, _, mirrors, _⟩ :=
    staging_mirrors numbered numbered_lawful linkedDisk ⟨"/shortcut/staging"⟩ _ _ placed
  obtain ⟨seat, mirrored⟩ := mirrors _ staged
  exact ⟨placed, staged, seat, base, mirrored⟩

end ScriptSuite.Staging
